import EditorBridge.Json.NumberReader
/-!
Reading whole JSON values.  `Reader.value` keeps every field in the order written; nesting is bounded
by a depth.  `Reader.skip` passes over a value that nobody wants: it is laxer, in that neither the
depth nor the size of numbers nor surrogates are checked.
-/

set_option autoImplicit false

namespace EditorBridge.Json

/-- How many brackets a text may have open at once. -/
def maxDepth : Nat := 127

namespace Reader

/-! ## Values -/

/-- A value that is no list and no object and starts with `c`. -/
def scalar (c : Char) : Reader Json := do
  match c with
  | 'n' =>
    advance
    word ['u', 'l', 'l']
    pure .null
  | 't' =>
    advance
    word ['r', 'u', 'e']
    pure (.bool true)
  | 'f' =>
    advance
    word ['a', 'l', 's', 'e']
    pure (.bool false)
  | '"' =>
    advance
    return .string (← stringBody)
  | '-' =>
    advance
    return .number (← unsignedNumber true)
  | c =>
    if c.isDigit then return .number (← unsignedNumber false)
    else failAtNext .expectedValue

/-- Any value, its objects with all fields in the order written. -/
def value : Nat → Reader Json
  | 0 => do
    match ← peekToken with
    | none => failHere .endInValue
    | some c => if c = '[' || c = '{' then failAtNext .tooDeep else scalar c
  | depth + 1 => do
    match ← peekToken with
    | none => failHere .endInValue
    | some '[' =>
      advance
      let items ← enclosed closeList do listRest (value depth) ((← remaining) + 1) true []
      pure (.array items)
    | some '{' =>
      advance
      let field (key : String) (fields : List (String × Json)) : Reader (List (String × Json)) := do
        colon
        return (key, ← value depth) :: fields
      let fields ← enclosed closeObject do objectRest field ((← remaining) + 1) true []
      pure (.object fields.reverse)
    | some c => scalar c

/-- Fails unless only blanks are left. -/
def atEnd : Reader Unit := do
  if (← peekToken).isSome then failAtNext .trailingCharacters

/-! ## Skipping -/

/-- Passes over a number whose sign has been taken. -/
def skipNumber : Reader Unit := do
  match ← peek with
  | some '0' =>
    advance
    if (← peekDigit).isSome then failAtNext .invalidNumber
  | some c => if c.isDigit then skipDigits else failAtNext .invalidNumber
  | none => failHere .invalidNumber
  if (← peek) = some '.' then
    advance
    if (← peekDigit).isNone then failAtNext .invalidNumber
    skipDigits
  if (← peek) = some 'e' || (← peek) = some 'E' then
    advance
    if (← peek) = some '+' || (← peek) = some '-' then advance
    if (← peekDigit).isNone then failAtNext .invalidNumber
    skipDigits

/-- Passes over an escape whose backslash has been taken. -/
def skipEscape : Reader Unit := do
  match ← peek with
  | none => failHere .endInString
  | some c =>
    if (escapeLetter? c).isSome then advance
    else if c = 'u' then
      advance
      discard hexEscape
    else failAtNext .invalidEscape

/-- Passes over the rest of a string; `steps` bounds its length. -/
def skipString : Nat → Reader Unit
  | 0 => failHere .endInString
  | steps + 1 => do
    match ← peek with
    | none => failHere .endInString
    | some c =>
      if c = '"' then advance
      else if c = '\\' then
        advance
        skipEscape
        skipString steps
      else if c.toNat < 0x20 then failHere .controlCharacter
      else
        advance
        skipString steps

/-- Passes over a string whose opening quote has been taken. -/
def skipStringBody : Reader Unit := do skipString ((← remaining) + 1)

/-- Passes over a value that is no list and no object and starts with `c`. -/
def skipScalar (c : Char) : Reader Unit := do
  match c with
  | '"' =>
    advance
    skipStringBody
  | '-' =>
    advance
    skipNumber
  | c => if c.isDigit then skipNumber else discard (scalar c)

/-- Passes over the key and the colon of a field. -/
def skipKey : Reader Unit := do
  match ← peekToken with
  | some '"' =>
    advance
    skipStringBody
    colon
  | some _ => failAtNext .keyMustBeString
  | none => failHere .endInObject

/-- Goes on after a value inside open brackets, the innermost first: closes brackets until a comma
calls for another value.  `complete` says whether a value has just ended; it has not directly after
an opening bracket.  The result lists the brackets still open. -/
def skipClosings : Nat → Bool → List Char → Reader (List Char)
  | 0, _, brackets => pure brackets
  | _, _, [] => pure []
  | steps + 1, complete, bracket :: outer => do
    let isList := bracket = '['
    match ← peekToken with
    | none => failHere (if isList then .endInList else .endInObject)
    | some c =>
      if c = ',' && complete then
        advance
        pure (bracket :: outer)
      else if c = (if isList then ']' else '}') then
        advance
        skipClosings steps true outer
      else if complete then
        failAtNext (if isList then .expectedCommaOrBracket else .expectedCommaOrBrace)
      else pure (bracket :: outer)

/-- Passes over values until no bracket is open; `steps` bounds their number. -/
def skipValues : Nat → List Char → Reader Unit
  | 0, _ => pure ()
  | steps + 1, brackets => do
    match ← peekToken with
    | none => failHere .endInValue
    | some c =>
      let brackets ←
        if c = '[' || c = '{' then do
          advance
          skipClosings ((← remaining) + 1) false (c :: brackets)
        else do
          skipScalar c
          skipClosings ((← remaining) + 1) true brackets
      match brackets with
      | [] => pure ()
      | bracket :: _ =>
        if bracket = '{' then skipKey
        skipValues steps brackets

/-- Passes over one value. -/
def skip : Reader Unit := do skipValues ((← remaining) + 1) []

end Reader

/-! ## Whole texts -/

/-- Runs a reader on a whole text, which must hold nothing else. -/
def readAll {α : Type} (reader : Reader α) (text : String) : Except Fault α :=
  let whole : Reader α := do
    let value ← reader
    Reader.atEnd
    pure value
  match whole ⟨text.toList, Position.start⟩ with
  | .ok value _ => .ok value
  | .error fault _ => .error fault

/-- The value of a text, repeated keys merged. -/
def parse (text : String) : Except Fault Json := do
  return (← readAll (Reader.value maxDepth) text).merged

end EditorBridge.Json
