import TraceTally.Decimal.Binary64

/-! The fewest decimal digits that round to a given binary fraction. -/
namespace TraceTally.Decimal.Binary64

/-- A positive number's rounding interval in quarters of its last place: the numbers from `4m - 2`
to `4m + 2` round to it, but a power of two has neighbours twice as close below. -/
def lowQuarters (b : Binary64) : Nat :=
  if b.mantissa = twoTo 52 && minExponent < b.exponent then 4 * b.mantissa - 1
  else 4 * b.mantissa - 2

def highQuarters (b : Binary64) : Nat := 4 * b.mantissa + 2

/-- Does `c * 10 ^ e` round to `b`? The ends of the interval belong to an even mantissa. -/
def rounds (b : Binary64) (c : Nat) (e : Int) : Bool :=
  let quarter := b.exponent - 2
  let value := c * tenTo e.toNat * twoTo (-quarter).toNat
  let unit := tenTo (-e).toNat * twoTo quarter.toNat
  let low := b.lowQuarters * unit
  let high := b.highQuarters * unit
  if b.mantissa % 2 = 0 then low ≤ value && value ≤ high else low < value && value < high

/-- The exponent `k` with `10 ^ (k - 1) ≤ num / den < 10 ^ k`. -/
def decimalExponent (num den : Nat) : Int :=
  let k : Int := (toString num).length - (toString den).length
  if num * tenTo (-k).toNat < den * tenTo k.toNat then k else k + 1

/-- The multiple of `10 ^ e` nearest to `b` that rounds to it, as a count of `10 ^ e`; of two
equally near, the upper one. -/
def nearest? (b : Binary64) (e : Int) : Option Nat :=
  let num := b.num * tenTo (-e).toNat
  let den := b.den * tenTo e.toNat
  let c := num / den
  let above := den ≤ 2 * (num % den)
  match b.rounds c e, b.rounds (c + 1) e with
  | true, true => some (if above then c + 1 else c)
  | true, false => some c
  | false, true => some (c + 1)
  | false, false => none

/-- Tries grids of the given numbers of digits in turn. A hit on the next power of ten has one
digit. -/
def shortestOf (b : Binary64) (k : Int) : List Nat → Nat × Int
  | [] => (b.num / b.den, 0)
  | n :: ns =>
    match b.nearest? (k - n) with
    | some c => if c = tenTo n then (1, k) else (c, k - n)
    | none => shortestOf b k ns

/-- Digits and exponent of the shortest decimal that rounds to a positive `b`. Seventeen digits
always do. -/
def shortest (b : Binary64) : Nat × Int :=
  shortestOf b (decimalExponent b.num b.den) (List.range' 1 17)

/-- `digits * 10 ^ exponent` written out, with at least one digit on each side of the point. -/
def positional (digits : Nat) (exponent : Int) : String :=
  let ds := (toString digits).toList
  if 0 ≤ exponent then
    String.ofList (ds ++ List.replicate exponent.toNat '0') ++ ".0"
  else
    let places := (-exponent).toNat
    let ds := List.replicate (places + 1 - ds.length) '0' ++ ds
    let point := ds.length - places
    String.ofList (ds.take point) ++ "." ++ String.ofList (ds.drop point)

/-- The shortest text of a number, always with a point and never with an exponent. -/
def text (b : Binary64) : String :=
  if b.mantissa = 0 then "0.0"
  else
    let (digits, exponent) := b.shortest
    positional digits exponent

end TraceTally.Decimal.Binary64
