import TraceTally.Text.Padding

/-! Exact quotients rounded to the nearest integer or decimal, a tie to the even neighbour. -/
namespace TraceTally.Decimal

def tenTo (n : Nat) : Nat := Nat.pow 10 n

def twoTo (n : Nat) : Nat := Nat.pow 2 n

/-- The integer nearest to `num / den`; of two equally near, the even one. -/
def roundDiv (num den : Nat) : Nat :=
  let q := num / den
  let r := num % den
  if 2 * r < den then q
  else if den < 2 * r then q + 1
  else if q % 2 = 0 then q else q + 1

/-- `num / den` with exactly `places` digits after the point. -/
def fixed (places num den : Nat) : String :=
  let n := roundDiv (num * tenTo places) den
  toString (n / tenTo places) ++ "." ++ Text.padLeft places '0' (toString (n % tenTo places))

end TraceTally.Decimal
