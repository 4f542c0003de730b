/-!
Finite binary64 numbers as exact integers, so that every statement about them is a statement about
`Nat` and `Int`.  A number is `± significand * 2 ^ exponent`; `ofRatio` is the one place where
rounding happens, and products, quotients and decimal scaling all go through it.
-/

set_option autoImplicit false

namespace EditorBridge

/-- A finite binary64 number `± significand * 2 ^ exponent`.  A normal number has a significand of
exactly 53 bits, a subnormal one or zero has the least exponent. -/
structure Binary64 where
  negative : Bool
  significand : Nat
  exponent : Int
deriving DecidableEq, Repr, Inhabited

namespace Binary64

/-! ## Rounding -/

/-- The exponent of the smallest positive number. -/
def minExponent : Int := -1074

/-- The exponent of the largest finite numbers. -/
def maxExponent : Int := 971

/-- Zero, with a sign of its own. -/
def zero (negative : Bool) : Binary64 := ⟨negative, 0, minExponent⟩

/-- `num / den` rounded to an integer, a half going to the even neighbour. -/
def roundHalfEven (num den : Nat) : Nat :=
  let quotient := num / den
  let twice := 2 * (num % den)
  if twice < den then quotient
  else if den < twice then quotient + 1
  else if quotient % 2 = 0 then quotient else quotient + 1

/-- The place of the leading bit of the positive quotient `num / den`. -/
def leadingBit (num den : Nat) : Int :=
  let place : Int := (Nat.log2 num : Int) - (Nat.log2 den : Int)
  if den * Nat.pow 2 place.toNat ≤ num * Nat.pow 2 (-place).toNat then place else place - 1

/-- The binary64 number nearest to `± num / den`, absent when that is beyond the largest one. -/
def ofRatio (negative : Bool) (num den : Nat) : Option Binary64 :=
  if num = 0 then some (zero negative)
  else
    let exponent := max minExponent (leadingBit num den - 52)
    let significand := roundHalfEven (num * Nat.pow 2 (-exponent).toNat) (den * Nat.pow 2 exponent.toNat)
    let rounded : Binary64 :=
      if significand = Nat.pow 2 53 then ⟨negative, Nat.pow 2 52, exponent + 1⟩
      else if significand = 0 then zero negative
      else ⟨negative, significand, exponent⟩
    if maxExponent < rounded.exponent then none else some rounded

/-! ## Arithmetic on magnitudes -/

/-- The numerator of the magnitude, over `denominator`. -/
def numerator (x : Binary64) : Nat := x.significand * Nat.pow 2 x.exponent.toNat

/-- The denominator of the magnitude, a power of two. -/
def denominator (x : Binary64) : Nat := Nat.pow 2 (-x.exponent).toNat

/-- Whether the number is a zero of either sign. -/
def isZero (x : Binary64) : Bool := x.significand == 0

/-- The product, rounded, with the sign of the first factor. -/
def mul (x y : Binary64) : Option Binary64 :=
  ofRatio x.negative (x.numerator * y.numerator) (x.denominator * y.denominator)

/-- The quotient, rounded, with the sign of the dividend. -/
def div (x y : Binary64) : Option Binary64 :=
  ofRatio x.negative (x.numerator * y.denominator) (x.denominator * y.numerator)

/-- The number nearest to `10 ^ k`. -/
def powerOfTen (k : Nat) : Option Binary64 := ofRatio false (Nat.pow 10 k) 1

/-- The largest power of ten that is finite. -/
def maxPowerOfTen : Nat := 308

/-- Scales by a power of ten in steps of at most `10 ^ 308`, each of them rounded.  Absent when the
result is too large. -/
def scale (x : Binary64) (exponent : Int) : Option Binary64 :=
  if exponent.natAbs ≤ maxPowerOfTen then do
    let power ← powerOfTen exponent.natAbs
    if 0 ≤ exponent then x.mul power else x.div power
  else if x.isZero then some x
  else if 0 ≤ exponent then none
  else do
    let power ← powerOfTen maxPowerOfTen
    let smaller ← x.div power
    smaller.scale (exponent + maxPowerOfTen)
termination_by exponent.natAbs
decreasing_by simp only [maxPowerOfTen] at *; omega

/-- The number with the opposite sign. -/
def neg (x : Binary64) : Binary64 := { x with negative := !x.negative }

/-- Numeric equality: the two zeros are equal, otherwise all parts agree. -/
def agrees (x y : Binary64) : Bool := x == y || (x.isZero && y.isZero)

end Binary64

end EditorBridge
