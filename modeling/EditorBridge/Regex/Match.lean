import EditorBridge.Regex.Expr
import EditorBridge.Unicode.Character
/-!
Searching a text for a pattern.  The pattern is laid over the text first, so that each of its tests
becomes the set of positions where it holds; then whole sets of positions are advanced at once.  A
set of positions is a number whose bit `i` stands for the place before character `i`.
-/

set_option autoImplicit false

namespace EditorBridge.Regex

/-! ## Places -/

/-- Whether a look holds between two neighbours, either of which may be missing. -/
def Look.holds (look : Look) (before after : Option Char) : Bool :=
  match look with
  | .startText => before.isNone
  | .endText => after.isNone
  | .startLine crlf =>
    before.isNone || before == some '\n' || (crlf && before == some '\r' && after != some '\n')
  | .endLine crlf =>
    if crlf then
      after.isNone || after == some '\r' || (after == some '\n' && before != some '\r')
    else after.isNone || after == some '\n'
  | .boundary kind unicode =>
    let isWord := if unicode then Character.isWord else Character.isAsciiWord
    let wordBefore := before.any isWord
    let wordAfter := after.any isWord
    match kind with
    | .word => wordBefore != wordAfter
    | .notWord => wordBefore == wordAfter
    | .start => !wordBefore && wordAfter
    | .stop => wordBefore && !wordAfter
    | .startHalf => !wordBefore
    | .stopHalf => !wordAfter

/-- A set of places in a text. -/
abbrev Positions : Type := Nat

namespace Positions

/-- The set of the places marked in a list. -/
def ofList : List Bool → Positions
  | [] => 0
  | marked :: rest => 2 * ofList rest + marked.toNat

/-- The places before the characters of a text that belong to a set. -/
def ofChars (text : List Char) (chars : CharSet) : Positions := ofList (text.map chars.has)

/-- The places of a text where a look holds, given the character before the first one. -/
def ofLook (look : Look) : Option Char → List Char → List Bool
  | before, [] => [look.holds before none]
  | before, c :: rest => look.holds before (some c) :: ofLook look (some c) rest

/-- All places of a text of the given length. -/
def all (length : Nat) : Positions := Nat.pow 2 (length + 1) - 1

/-- Applies a step so many times, or until nothing changes any more. -/
def exactly (step : Positions → Positions) : Nat → Positions → Positions
  | 0, positions => positions
  | count + 1, positions =>
    let next := step positions
    if next = positions then positions else exactly step count next

/-- Applies a step up to so many times and keeps what is reached on the way. -/
def upTo (step : Positions → Positions) : Nat → Positions → Positions
  | 0, positions => positions
  | count + 1, positions =>
    let next := positions ||| step positions
    if next = positions then positions else upTo step count next

end Positions

/-! ## Expressions over positions -/

namespace Expr

/-- The places reached by matching an expression from any of the given ones, in a text of the given
length.  An unbounded repetition reaches all it can within that many steps. -/
def advance (length : Nat) : Expr Positions Positions → Positions → Positions
  | empty, positions => positions
  | one chars, positions => (positions &&& chars) <<< 1
  | look places, positions => positions &&& places
  | concat first second, positions => second.advance length (first.advance length positions)
  | alternate first second, positions =>
    first.advance length positions ||| second.advance length positions
  | iterate least most _ body, positions =>
    let more := match most with
      | some most => most - least
      | none => length
    Positions.upTo (body.advance length) more (Positions.exactly (body.advance length) least positions)

end Expr

namespace Pattern

/-- The pattern laid over a text. -/
def overlay (pattern : Pattern) (text : List Char) : Expr Positions Positions :=
  pattern.map (Positions.ofChars text) fun look => Positions.ofList (Positions.ofLook look none text)

/-- Whether the pattern matches some part of a text. -/
def isMatch (pattern : Pattern) (text : String) : Bool :=
  let chars := text.toList
  (pattern.overlay chars).advance chars.length (Positions.all chars.length) != 0

end Pattern

end EditorBridge.Regex
