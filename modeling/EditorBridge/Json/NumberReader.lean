import EditorBridge.Json.Reader
/-!
Reading numbers.  Digits are gathered into a 64-bit significand for as long as they fit; digits
beyond that only move the decimal exponent.  A number without point and exponent that fits 64 bits
is an integer, every other one is the significand scaled by its power of ten.
-/

set_option autoImplicit false

namespace EditorBridge.Json.Reader

/-! ## Digits -/

/-- The largest significand. -/
def maxSignificand : Nat := Nat.pow 2 64 - 1

/-- The largest exponent that is followed digit by digit. -/
def maxExponent : Nat := Nat.pow 2 31 - 1

def digit? (c : Char) : Option Nat := if c.isDigit then some (c.toNat - '0'.toNat) else none

/-- The value of the next character as a digit, not taken. -/
def peekDigit : Reader (Option Nat) := do return (← peek).bind digit?

/-- The digits at the front of a text and what follows them. -/
def skipDigits : Reader Unit := modify fun cursor =>
  let digits := cursor.rest.takeWhile Char.isDigit
  ⟨cursor.rest.dropWhile Char.isDigit, digits.foldl Position.after cursor.place⟩

/-- Takes digits while `value * 10 + digit` stays within `limit`.  Returns the value, how many
digits were taken, and whether a further digit was left because of the limit. -/
def boundedDigits (limit : Nat) : Nat → Nat → Nat → Reader (Nat × Nat × Bool)
  | 0, value, count => pure (value, count, false)
  | steps + 1, value, count => do
    match ← peekDigit with
    | none => pure (value, count, false)
    | some digit =>
      if value * 10 + digit ≤ limit then
        advance
        boundedDigits limit steps (value * 10 + digit) (count + 1)
      else pure (value, count, true)

/-! ## Scaling -/

/-- The number `± significand * 10 ^ exponent`. -/
def scaled (negative : Bool) (significand : Nat) (exponent : Int) : Reader Number := do
  match (Binary64.ofRatio negative significand 1).bind (·.scale exponent) with
  | some value => pure (.float value)
  | none => failHere .numberOutOfRange

/-- The largest and smallest exponents of ten that are kept. -/
def clampExponent (exponent : Int) : Int := max (-2147483648) (min 2147483647 exponent)

/-- The exponent part, whose letter is next, and the number it completes. -/
def exponentPart (negative : Bool) (significand : Nat) (exponent : Int) : Reader Number := do
  advance
  let sign ← peek
  if sign = some '+' || sign = some '-' then advance
  let negativeExponent := sign = some '-'
  match ← peek with
  | none => failHere .endInValue
  | some c =>
    if !c.isDigit then failAtNext .invalidNumber
    else
      let (value, _, more) ← boundedDigits maxExponent ((← remaining) + 1) 0 0
      if more then
        if significand ≠ 0 ∧ !negativeExponent then
          advance
          failHere .numberOutOfRange
        else
          skipDigits
          pure (.float (Binary64.zero negative))
      else
        let moved := if negativeExponent then exponent - value else exponent + value
        scaled negative significand (clampExponent moved)

/-- What follows the digits of a number that is not an integer: maybe an exponent part. -/
def maybeExponent (negative : Bool) (significand : Nat) (exponent : Int) : Reader Number := do
  match ← peek with
  | some 'e' | some 'E' => exponentPart negative significand exponent
  | _ => scaled negative significand exponent

/-- The part after the point, which is next, and the number it completes. -/
def fractionPart (negative : Bool) (significand : Nat) (exponent : Int) : Reader Number := do
  advance
  let (value, count, more) ← boundedDigits maxSignificand ((← remaining) + 1) significand 0
  if more then
    skipDigits
    maybeExponent negative value (exponent - count)
  else if count = 0 then
    match ← peek with
    | none => failHere .endInValue
    | some _ => failAtNext .invalidNumber
  else maybeExponent negative value (exponent - count)

/-! ## Numbers -/

/-- The integer `± significand`, or a binary64 number where that does not fit or is minus zero. -/
def wholeNumber (negative : Bool) (significand : Nat) : Reader Number :=
  if !negative then pure (.integer significand)
  else if significand = 0 ∨ Nat.pow 2 63 < significand then scaled true significand 0
  else pure (.integer (-significand))

/-- A number whose digits have been taken: what follows decides its kind. -/
def afterDigits (negative : Bool) (significand : Nat) : Reader Number := do
  match ← peek with
  | some '.' => fractionPart negative significand 0
  | some 'e' | some 'E' => exponentPart negative significand 0
  | _ => wholeNumber negative significand

/-- A number with more digits than the significand holds; the rest of them is next. -/
def longNumber (negative : Bool) (significand : Nat) : Reader Number := do
  let before ← remaining
  skipDigits
  let exponent := before - (← remaining)
  match ← peek with
  | some '.' => fractionPart negative significand exponent
  | _ => maybeExponent negative significand exponent

/-- A number whose sign has been taken. -/
def unsignedNumber (negative : Bool) : Reader Number := do
  match ← peek with
  | none => failHere .endInValue
  | some '0' =>
    advance
    if (← peekDigit).isSome then failAtNext .invalidNumber
    afterDigits negative 0
  | some c =>
    if !c.isDigit then failAtNext .invalidNumber
    else
      let (significand, _, more) ← boundedDigits maxSignificand ((← remaining) + 1) 0 0
      if more then longNumber negative significand else afterDigits negative significand

end EditorBridge.Json.Reader
