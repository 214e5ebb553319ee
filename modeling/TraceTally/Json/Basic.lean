/-! JSON documents. -/
namespace TraceTally

/-- A JSON value whose strings are of type `σ`: text when it is written, perhaps text when it is
read. An integer keeps its sign apart, so that minus zero is not zero. -/
inductive Json (σ : Type) where
  | null
  | bool (b : Bool)
  | integer (negative : Bool) (magnitude : Nat)
  /-- A number with a fraction or an exponent; its value is not kept. -/
  | real
  | string (s : σ)
  | array (items : List (Json σ))
  | object (fields : List (σ × Json σ))

/-- JSON that was read: a string is text unless its escapes leave a surrogate alone. -/
abbrev Json.Read := Json (Option String)

namespace Json

variable {σ : Type}

def ofUInt64 (n : UInt64) : Json σ := integer false n.toNat

def ofInt64 (n : Int64) : Json σ := integer (n < 0) n.toInt.natAbs

/-- An unsigned word, if the value is an integer in its range. -/
def toUInt64? : Json σ → Option UInt64
  | integer false n => if n < UInt64.size then some (.ofNat n) else none
  | _ => none

/-- A signed word, if the value is an integer in its range. Minus zero is none. -/
def toInt64? : Json σ → Option Int64
  | integer false n => if n ≤ Int64.maxValue.toInt then some (.ofInt n) else none
  | integer true n =>
    if n ≠ 0 ∧ Int64.minValue.toInt ≤ -(n : Int) then some (.ofInt (-n)) else none
  | _ => none

/-- The values of the named fields. In an object no field may be named twice, and others are passed
over; an array gives the values of all fields in order. -/
def fields? (names : List String) : Read → Option (List (Option Read))
  | object fs =>
    if fs.any (·.1.isNone) then none
    else names.mapM fun name =>
      match fs.filter (·.1 == some name) with
      | [] => some none
      | [f] => some (some f.2)
      | _ => none
  | array items => if items.length = names.length then some (items.map some) else none
  | _ => none

end Json

end TraceTally
