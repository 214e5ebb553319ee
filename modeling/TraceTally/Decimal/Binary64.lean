import TraceTally.Decimal.Rounding

/-! Binary fractions of 53 bits. Every operation is the exact one, rounded once. -/
namespace TraceTally.Decimal

/-- The number `mantissa * 2 ^ exponent`. -/
structure Binary64 where
  mantissa : Nat
  exponent : Int
  deriving DecidableEq

namespace Binary64

/-- The number is `num / den`. -/
def num (b : Binary64) : Nat := b.mantissa * twoTo b.exponent.toNat

def den (b : Binary64) : Nat := twoTo (-b.exponent).toNat

/-- The exponent of the greatest power of two that is not above `num / den`. -/
def floorLog2 (num den : Nat) : Int :=
  let k : Int := num.log2 - den.log2
  if den * twoTo k.toNat ≤ num * twoTo (-k).toNat then k else k - 1

/-- The exponent of the smallest positive number. -/
def minExponent : Int := -1074

/-- The number nearest to `num / den`, a tie to the even mantissa. Nothing stops it at the top:
`isFinite` tells whether the format holds the result. -/
def ofRatio (num den : Nat) : Binary64 :=
  if num = 0 then ⟨0, minExponent⟩
  else
    let e := max minExponent (floorLog2 num den - 52)
    let m := roundDiv (num * twoTo (-e).toNat) (den * twoTo e.toNat)
    if m = twoTo 53 then ⟨twoTo 52, e + 1⟩ else ⟨m, e⟩

def isFinite (b : Binary64) : Bool := b.mantissa = 0 || b.mantissa.log2 + b.exponent < 1024

def ofNat (n : Nat) : Binary64 := ofRatio n 1

def div (a b : Binary64) : Binary64 := ofRatio (a.num * b.den) (a.den * b.num)

def mul (a b : Binary64) : Binary64 := ofRatio (a.num * b.num) (a.den * b.den)

/-- The number nearest to `digits * 10 ^ exponent`, if the format holds it. Exponents far out of
reach are decided without writing the power out. -/
def ofDecimal? (digits : Nat) (exponent : Int) : Option Binary64 :=
  let size : Int := (toString digits).length
  if digits = 0 || exponent + size < -400 then some ⟨0, minExponent⟩
  else if 400 < exponent then none
  else
    let b := ofRatio (digits * tenTo exponent.toNat) (tenTo (-exponent).toNat)
    if b.isFinite then some b else none

/-- The number with exactly `places` digits after the point. -/
def toFixed (places : Nat) (b : Binary64) : String := fixed places b.num b.den

end Binary64

end TraceTally.Decimal
