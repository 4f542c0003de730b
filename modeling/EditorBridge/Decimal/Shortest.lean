import EditorBridge.Decimal.Binary64
/-!
The shortest decimal text of a binary64 number.  `shortest` finds the fewest digits that read back
as the number, and of those the nearest; `text` writes them positionally in the middle range and
with an exponent outside it.
-/

set_option autoImplicit false

namespace EditorBridge

namespace Binary64

/-! ## Digits -/

/-- The decimals that round to a number, as multiples of `2 ^ (exponent - 2)`. -/
structure Interval where
  low : Nat
  high : Nat
  closed : Bool

/-- The reals that round to `x`: half a step to each side, a quarter below a power of two, the ends
included exactly when the significand is even. -/
def interval (x : Binary64) : Interval :=
  let below := if x.significand = Nat.pow 2 52 ∧ minExponent < x.exponent then 1 else 2
  ⟨4 * x.significand - below, 4 * x.significand + 2, x.significand % 2 == 0⟩

/-- A decimal `digits * 10 ^ exponent`. -/
structure Digits where
  digits : Nat
  exponent : Int
deriving DecidableEq, Repr, Inhabited

/-- The number of decimal digits of `n`. -/
def decimalLength (n : Nat) : Nat := (Nat.toDigits 10 n).length

/-- The place of the leading decimal digit of the positive quotient `num / den`. -/
def leadingDigit (num den : Nat) : Int :=
  if den ≤ num then (decimalLength (num / den) : Int) - 1
  else
    let guess := decimalLength (den / num)
    if den ≤ num * Nat.pow 10 (guess - 1) then -((guess : Int) - 1) else -(guess : Int)

/-- The best decimal with its last digit at place `place` that reads back as `x`: one of the two
neighbours of `x` on that grid, the nearer one if both do, the even one on a tie. -/
def onGrid (x : Binary64) (place : Int) : Option Nat :=
  let range := x.interval
  -- both grids as integers, over the denominator `2 ^ (-binary) * 10 ^ (-place)`
  let binary := x.exponent - 2
  let unit (n : Nat) : Nat := n * Nat.pow 2 binary.toNat * Nat.pow 10 (-place).toNat
  let point (d : Nat) : Nat := d * Nat.pow 10 place.toNat * Nat.pow 2 (-binary).toNat
  let value := unit (4 * x.significand)
  let low := unit range.low
  let high := unit range.high
  let step := point 1
  let down := value / step
  let inside (d : Nat) : Bool :=
    if range.closed then low ≤ point d && point d ≤ high else low < point d && point d < high
  let toDown := value - point down
  let toUp := point (down + 1) - value
  match inside down && 0 < down, inside (down + 1) with
  | true, true =>
    if toDown < toUp then some down
    else if toUp < toDown then some (down + 1)
    else if down % 2 = 0 then some down else some (down + 1)
  | true, false => some down
  | false, true => some (down + 1)
  | false, false => none

/-- Tries grids with more and more digits, starting with the leading digit's place. -/
def shortestFrom (x : Binary64) (place : Int) : Nat → Digits
  | 0 => ⟨0, 0⟩
  | tries + 1 =>
    match x.onGrid place with
    | some d => ⟨d, place⟩
    | none => shortestFrom x (place - 1) tries

/-- The shortest decimal that reads back as the positive magnitude of `x`.  Seventeen digits always
suffice. -/
def shortest (x : Binary64) : Digits :=
  shortestFrom x (leadingDigit x.numerator x.denominator) 18

/-! ## Text -/

/-- Drops the trailing zeros of a run of digits, keeping at least one digit. -/
def trimZeros (digits : List Char) : List Char :=
  match (digits.reverse.dropWhile (· == '0')).reverse with
  | [] => ['0']
  | trimmed => trimmed

/-- Digits with a point after the first `whole` of them; missing places are zeros, and both sides of
the point show at least one digit. -/
def positional (digits : List Char) (whole : Int) : List Char :=
  if whole ≤ 0 then '0' :: '.' :: (List.replicate (-whole).toNat '0' ++ digits)
  else
    let count := whole.toNat
    let padded := digits ++ List.replicate (count - digits.length) '0'
    let fraction := padded.drop count
    padded.take count ++ '.' :: (if fraction.isEmpty then ['0'] else fraction)

/-- One digit, a point if more follow, and a signed exponent without padding. -/
def scientific (digits : List Char) (exponent : Int) : List Char :=
  let mantissa := match digits with
    | first :: second :: more => first :: '.' :: second :: more
    | short => short
  let sign := if exponent < 0 then '-' else '+'
  mantissa ++ 'e' :: sign :: (Nat.toDigits 10 exponent.natAbs)

/-- The least place of a leading digit that is written positionally. -/
def positionalFrom : Int := -5

/-- The first place of a leading digit that is no longer written positionally. -/
def positionalBelow : Int := 16

/-- The text of a number: its shortest digits, positionally from `1e-5` up to below `1e16` and
otherwise with an exponent. -/
def text (x : Binary64) : String :=
  let body :=
    if x.isZero then ['0', '.', '0']
    else
      let best := x.shortest
      let digits := Nat.toDigits 10 best.digits
      let lead := best.exponent + (digits.length : Int) - 1
      let shown := trimZeros digits
      if positionalFrom ≤ lead ∧ lead < positionalBelow then positional shown (lead + 1)
      else scientific shown lead
  String.ofList (if x.negative then '-' :: body else body)

end Binary64

end EditorBridge
