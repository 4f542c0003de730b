import EditorBridge.Json.Fault
/-!
Reading JSON text from left to right.  A `Reader` is a computation on a `Cursor`, the part of the
text that is still to be read together with its place; a failing reader keeps the cursor it had
reached, so that what encloses it can still look for its closing bracket.
-/

set_option autoImplicit false

namespace EditorBridge.Json

/-- The unread part of a text and its place. -/
structure Cursor where
  rest : List Char
  place : Position

/-- A computation that reads from a cursor and may fail. -/
abbrev Reader (α : Type) : Type := EStateM Fault Cursor α

namespace Reader

/-! ## Single characters -/

/-- The next character, not taken. -/
def peek : Reader (Option Char) := do return (← get).rest.head?

/-- Takes the next character, if there is one. -/
def advance : Reader Unit := modify fun cursor =>
  match cursor.rest with
  | [] => cursor
  | c :: rest => ⟨rest, cursor.place.after c⟩

/-- Fails at the current place. -/
def failHere {α : Type} (cause : Malformed) : Reader α := do
  throw (.malformed cause (← get).place)

/-- Fails at the place one byte further, if there is one: the byte looked at is counted. -/
def failAtNext {α : Type} (cause : Malformed) : Reader α := do
  let cursor ← get
  throw (.malformed cause (cursor.rest.head?.elim cursor.place (cursor.place.afterBytes 1)))

/-- Fails with a mismatch whose place is not known yet. -/
def mismatch {α : Type} (cause : Mismatch) : Reader α := throw (.mismatch cause none)

/-- Lifts a result about values. -/
def ofExcept {α : Type} : Except Mismatch α → Reader α
  | .ok value => pure value
  | .error cause => mismatch cause

/-- Gives a mismatch without a place the place reached. -/
def located {α : Type} (reader : Reader α) : Reader α := fun cursor =>
  match reader cursor with
  | .error (.mismatch cause none) cursor => .error (.mismatch cause (some cursor.place)) cursor
  | result => result

/-- Runs `closing` after `body`, also after a failed one; the first failure counts. -/
def enclosed {α : Type} (closing : Reader Unit) (body : Reader α) : Reader α := fun cursor =>
  match body cursor with
  | .ok value cursor =>
    match closing cursor with
    | .ok _ cursor => .ok value cursor
    | .error fault cursor => .error fault cursor
  | .error fault cursor =>
    match closing cursor with
    | .ok _ cursor => .error fault cursor
    | .error _ cursor => .error fault cursor

def isBlank (c : Char) : Bool := c == ' ' || c == '\n' || c == '\t' || c == '\r'

/-- Takes blanks from the front of a text. -/
def dropBlanks : List Char → Position → Cursor
  | [], place => ⟨[], place⟩
  | c :: rest, place => if isBlank c then dropBlanks rest (place.after c) else ⟨c :: rest, place⟩

/-- Skips blanks and looks at the character after them. -/
def peekToken : Reader (Option Char) := do
  modify fun cursor => dropBlanks cursor.rest cursor.place
  peek

/-- The number of characters left, an upper bound for the steps of any loop. -/
def remaining : Reader Nat := do return (← get).rest.length

/-! ## Words -/

/-- Takes the given letters. -/
def word : List Char → Reader Unit
  | [] => pure ()
  | expected :: letters => do
    match ← peek with
    | none => failHere .endInValue
    | some c =>
      if c = expected then
        advance
        word letters
      else failAtNext .misspeltWord

/-! ## Strings -/

/-- The value of four hexadecimal digits. -/
def hexValue? (digits : List Char) : Option Nat :=
  digits.foldl (fun value c => do
    let digit ← CharSet.hexDigit? c
    return (← value) * 16 + digit) (some 0)

/-- Takes four bytes, which may end inside a character; the second part is the place reached. -/
def takeBytes : Nat → List Char → Position → Option (List Char × List Char) × Position
  | 0, rest, place => (some ([], rest), place)
  | _, [], place => (none, place)
  | count + 1, c :: rest, place =>
    if c.utf8Size ≤ count + 1 then
      match takeBytes (count + 1 - c.utf8Size) rest (place.after c) with
      | (some (taken, left), place) => (some (c :: taken, left), place)
      | (none, place) => (none, place)
    else (some ([c], rest), place.afterBytes (count + 1) c)
termination_by _ rest => rest.length

/-- Takes the four digits of a `\u` escape. -/
def hexEscape : Reader Nat := do
  let cursor ← get
  match takeBytes 4 cursor.rest cursor.place with
  | (none, place) =>
    set (Cursor.mk [] place)
    failHere .endInString
  | (some (digits, rest), place) =>
    set (Cursor.mk rest place)
    match hexValue? digits with
    | some value => pure value
    | none => failHere .invalidEscape

/-- Whether a code unit is the first half of a surrogate pair. -/
def isLeadingSurrogate (unit : Nat) : Bool := 0xD800 ≤ unit && unit ≤ 0xDBFF

/-- Whether a code unit is the second half of a surrogate pair. -/
def isTrailingSurrogate (unit : Nat) : Bool := 0xDC00 ≤ unit && unit ≤ 0xDFFF

/-- Takes one letter of the `\u` that must follow a leading surrogate. -/
def surrogateLetter (expected : Char) : Reader Unit := do
  match ← peek with
  | none => failHere .endInString
  | some c => if c = expected then advance else failAtNext .unfinishedSurrogate

/-- The character of a `\u` escape whose `u` has been taken. -/
def unicodeEscape : Reader Char := do
  let unit ← hexEscape
  if isTrailingSurrogate unit then failHere .loneSurrogate
  else if isLeadingSurrogate unit then
    surrogateLetter '\\'
    surrogateLetter 'u'
    let second ← hexEscape
    if isTrailingSurrogate second then
      return Char.ofNat (0x10000 + (unit - 0xD800) * 0x400 + (second - 0xDC00))
    else failHere .loneSurrogate
  else return Char.ofNat unit

/-- The character a one-letter escape stands for. -/
def escapeLetter? (c : Char) : Option Char :=
  match c with
  | '"' => some '"'
  | '\\' => some '\\'
  | '/' => some '/'
  | 'b' => some '\x08'
  | 'f' => some '\x0c'
  | 'n' => some '\n'
  | 'r' => some '\r'
  | 't' => some '\t'
  | _ => none

/-- The character of an escape whose backslash has been taken. -/
def escapeSequence : Reader Char := do
  match ← peek with
  | none => failHere .endInString
  | some c =>
    match escapeLetter? c with
    | some value =>
      advance
      pure value
    | none =>
      if c = 'u' then
        advance
        unicodeEscape
      else failAtNext .invalidEscape

/-- The characters up to the closing quote, in reverse; `steps` bounds their number. -/
def stringRest : Nat → List Char → Reader String
  | 0, _ => failHere .endInString
  | steps + 1, taken => do
    match ← peek with
    | none => failHere .endInString
    | some c =>
      if c = '"' then
        advance
        return String.ofList taken.reverse
      else if c = '\\' then
        advance
        let value ← escapeSequence
        stringRest steps (value :: taken)
      else if c.toNat < 0x20 then failAtNext .controlCharacter
      else
        advance
        stringRest steps (c :: taken)

/-- The text of a string whose opening quote has been taken. -/
def stringBody : Reader String := do stringRest ((← remaining) + 1) []

/-! ## Brackets -/

/-- Closes a list, complaining about anything but its bracket. -/
def closeList : Reader Unit := do
  match ← peekToken with
  | none => failHere .endInList
  | some ']' => advance
  | some ',' =>
    advance
    match ← peekToken with
    | some ']' => failAtNext .trailingComma
    | _ => failAtNext .trailingCharacters
  | some _ => failAtNext .trailingCharacters

/-- Closes an object, complaining about anything but its brace. -/
def closeObject : Reader Unit := do
  match ← peekToken with
  | none => failHere .endInObject
  | some '}' => advance
  | some ',' => failAtNext .trailingComma
  | some _ => failAtNext .trailingCharacters

/-- Whether another item follows in a list; takes the comma before it. -/
def moreItems (first : Bool) : Reader Bool := do
  match ← peekToken with
  | none => failHere .endInList
  | some ']' => pure false
  | some c =>
    if first then pure true
    else if c = ',' then
      advance
      match ← peekToken with
      | none => failHere .endInValue
      | some ']' => failAtNext .trailingComma
      | some _ => pure true
    else failAtNext .expectedCommaOrBracket

/-- The key of the next field of an object, if one follows; takes the comma before it. -/
def nextKey (first : Bool) : Reader (Option String) := do
  match ← peekToken with
  | none => failHere .endInObject
  | some '}' => pure none
  | some c =>
    if first then key c
    else if c = ',' then
      advance
      match ← peekToken with
      | none => failHere .endInValue
      | some '}' => failAtNext .trailingComma
      | some c => key c
    else failAtNext .expectedCommaOrBrace
where
  /-- Reads a key that starts with `c`. -/
  key (c : Char) : Reader (Option String) := do
    if c = '"' then
      advance
      return some (← stringBody)
    else failAtNext .keyMustBeString

/-- Takes the colon between a key and its value. -/
def colon : Reader Unit := do
  match ← peekToken with
  | none => failHere .endInObject
  | some ':' => advance
  | some _ => failAtNext .expectedColon

/-- Opens a bracket if the depth allows it, and hands on the depth left. -/
def nested {α : Type} (depth : Nat) (body : Nat → Reader α) : Reader α :=
  match depth with
  | 0 => failAtNext .tooDeep
  | left + 1 => do
    advance
    body left

/-- Reads a list item by item; `steps` bounds the number of items. -/
def listRest {α : Type} (item : Reader α) : Nat → Bool → List α → Reader (List α)
  | 0, _, taken => pure taken.reverse
  | steps + 1, first, taken => do
    if ← moreItems first then
      let value ← item
      listRest item steps false (value :: taken)
    else pure taken.reverse

/-- Reads an object field by field; `steps` bounds the number of fields, `field` is given each key
and the state so far, with the colon still to come. -/
def objectRest {σ : Type} (field : String → σ → Reader σ) : Nat → Bool → σ → Reader σ
  | 0, _, state => pure state
  | steps + 1, first, state => do
    match ← nextKey first with
    | none => pure state
    | some key =>
      let state ← field key state
      objectRest field steps false state

/-- The items of a list whose bracket is next, and the bracket that closes it. -/
def list {α : Type} (depth : Nat) (item : Nat → Reader α) : Reader (List α) :=
  nested depth fun depth =>
    enclosed closeList do listRest (item depth) ((← remaining) + 1) true []

end Reader

end EditorBridge.Json
