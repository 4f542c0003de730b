import EditorBridge.Regex.Expr
/-!
How much room a pattern takes once it is compiled.  A compiled pattern reads bytes, one range of bytes
for each state, so a set of characters costs what the encodings of its members cost.  A pattern that
would grow too large is refused.
-/

set_option autoImplicit false

namespace EditorBridge.Regex

/-! ## Encoded characters -/

/-- A range of digits for each digit of a number; it stands for all numbers with such digits. -/
abbrev Box : Type := List (Nat × Nat)

/-- All digits to base 64. -/
def anyDigit : Nat × Nat := (0, 63)

/-- Splits the numbers from `low` to `high` into boxes.  `count` digits to base 64 follow the first
digit, which is of any size. -/
def boxes : Nat → Nat → Nat → List Box
  | 0, low, high => [[(low, high)]]
  | count + 1, low, high =>
    let unit := Nat.pow 64 (count + 1)
    let first := low / unit
    let last := high / unit
    if first = last then (boxes count (low % unit) (high % unit)).map ((first, first) :: ·)
    else
      let front :=
        if low % unit = 0 then [] else (boxes count (low % unit) (unit - 1)).map ((first, first) :: ·)
      let back :=
        if high % unit = unit - 1 then [] else (boxes count 0 (high % unit)).map ((last, last) :: ·)
      let least := if low % unit = 0 then first else first + 1
      let limit := if high % unit = unit - 1 then last + 1 else last
      let middle :=
        if least < limit then [(least, limit - 1) :: List.replicate (count + 1) anyDigit] else []
      front ++ middle ++ back

/-- Characters that are encoded in the same number of bytes: `count` bytes follow the first one, to
which `mark` is added. -/
structure Plane where
  range : CharRange
  count : Nat
  mark : Nat

/-- All characters by the form of their encodings. -/
def planes : List Plane :=
  [⟨⟨0, 0x7F⟩, 0, 0⟩, ⟨⟨0x80, 0x7FF⟩, 1, 0xC0⟩, ⟨⟨0x800, 0xD7FF⟩, 2, 0xE0⟩, ⟨⟨0xE000, 0xFFFF⟩, 2, 0xE0⟩,
    ⟨⟨0x10000, 0x10FFFF⟩, 3, 0xF0⟩]

/-- The boxes of the encodings of the characters in a range that lie in a plane. -/
def Plane.boxesOf (plane : Plane) (range : CharRange) : List Box :=
  let low := max range.low plane.range.low
  let high := min range.high plane.range.high
  let mark := plane.mark * Nat.pow 64 plane.count
  if low ≤ high then boxes plane.count (low + mark) (high + mark) else []

/-- The boxes of the encodings of the characters in a set. -/
def encodings (set : CharSet) : List Box :=
  set.flatMap fun range => planes.flatMap (·.boxesOf range)

/-- How many digits two boxes share at their front. -/
def sharedLength : Box → Box → Nat
  | a :: as, b :: bs => if a = b then sharedLength as bs + 1 else 0
  | _, _ => 0

/-- The number of states that read one of some boxes; a front shared with the box before is read by
the same states. -/
def stateCount (previous : Box) : List Box → Nat
  | [] => 0
  | box :: rest => box.length - sharedLength previous box + stateCount box rest

/-! ## Room -/

namespace Pattern

/-- The room a state takes. -/
def stateSize : Nat := 32

/-- The room a set of characters takes.  Ranges of ASCII characters share one state. -/
def setSize (set : CharSet) : Nat :=
  let ranges := set.normal
  if set.isAscii then 2 * stateSize + 8 * ranges.length
  else
    let encoded := encodings ranges
    (stateCount [] encoded + 2) * stateSize + 4 * encoded.length

/-- The approximate room the compiled form of a pattern takes.  A counted repetition holds its body
as often as it can be passed, unless the body matches nothing but the empty text. -/
def size : Pattern → Nat
  | .empty => stateSize
  | .one chars => setSize chars
  | .look _ => stateSize
  | .concat first second => size first + size second
  | .alternate first second => size first + size second + stateSize
  | .iterate least most _ body =>
    let copies := if body.consumes then most.getD (max least 1) else min (most.getD 1) 1
    copies * size body + (copies - least + 1) * stateSize

/-- The most room a compiled pattern may take. -/
def maxSize : Nat := 10 * Nat.pow 2 20

end Pattern

end EditorBridge.Regex
