/-! Small parts of readers: digits up to sixteen and the numbers they spell. A reader gives what it
read and the characters that follow. -/
namespace TraceTally.Text

/-- The value of a hexadecimal digit, in either case. -/
def hexDigit? (c : Char) : Option Nat :=
  if '0' ≤ c ∧ c ≤ '9' then some (c.toNat - '0'.toNat)
  else if 'a' ≤ c ∧ c ≤ 'f' then some (c.toNat - 'a'.toNat + 10)
  else if 'A' ≤ c ∧ c ≤ 'F' then some (c.toNat - 'A'.toNat + 10)
  else none

/-- The number that digits spell in a base. -/
def digitsValue (base : Nat) (ds : List Char) : Nat :=
  ds.foldl (fun n c => base * n + (hexDigit? c).getD 0) 0

/-- The number that hexadecimal digits spell, if all are digits. -/
def hexValue? (ds : List Char) : Option Nat :=
  if ds.all fun c => (hexDigit? c).isSome then some (digitsValue 16 ds) else none

/-- The digits of a small number behind two zeros. -/
theorem hexValue?_control : ∀ n < 0x80,
    hexValue? ['0', '0', Nat.digitChar (n / 16), Nat.digitChar (n % 16)] = some n := by
  decide

def signed (negative : Bool) (n : Nat) : Int := if negative then -n else n

@[simp]
theorem signed_false (n : Nat) : signed false n = n := rfl

@[simp]
theorem signed_true (n : Nat) : signed true n = -n := rfl

/-- What a reader gives when one more item stands in front. -/
def prepend {α : Type} (x : α) (read : List α × List Char) : List α × List Char :=
  (x :: read.1, read.2)

end TraceTally.Text
