import EditorBridge.Json.Basic
import EditorBridge.Text.Quoted
/-!
What can be wrong with a JSON text: it is no JSON at all (`Malformed`), or it is JSON of the wrong
shape (`Mismatch`).  A `Fault` is one of both with the place where it was found.
-/

set_option autoImplicit false

namespace EditorBridge.Json

/-! ## Places -/

/-- A place in a text: the line, counted from one, and the bytes since the start of that line. -/
structure Position where
  line : Nat
  column : Nat
deriving DecidableEq, Repr, Inhabited

namespace Position

/-- The place before the first character. -/
def start : Position := ⟨1, 0⟩

/-- The place after the first `bytes` bytes of a character. -/
def afterBytes (place : Position) (bytes : Nat) (c : Char) : Position :=
  if c = '\n' then ⟨place.line + 1, 0⟩ else ⟨place.line, place.column + bytes⟩

/-- The place after a character. -/
def after (place : Position) (c : Char) : Position := place.afterBytes c.utf8Size c

/-- The text that names a place at the end of a message. -/
def text (place : Position) : String :=
  " at line " ++ toString place.line ++ " column " ++ toString place.column

end Position

/-! ## Text that is no JSON -/

/-- The ways in which a text fails to be JSON. -/
inductive Malformed
  | endInValue | endInList | endInObject | endInString
  | expectedValue | keyMustBeString | expectedColon | expectedCommaOrBracket | expectedCommaOrBrace
  | trailingComma | trailingCharacters
  | misspeltWord | invalidNumber | numberOutOfRange
  | controlCharacter | invalidEscape | loneSurrogate | unfinishedSurrogate
  | tooDeep
deriving DecidableEq, Repr

namespace Malformed

/-- The message for each kind of malformed text. -/
def message : Malformed → String
  | endInValue => "EOF while parsing a value"
  | endInList => "EOF while parsing a list"
  | endInObject => "EOF while parsing an object"
  | endInString => "EOF while parsing a string"
  | expectedValue => "expected value"
  | keyMustBeString => "key must be a string"
  | expectedColon => "expected `:`"
  | expectedCommaOrBracket => "expected `,` or `]`"
  | expectedCommaOrBrace => "expected `,` or `\x7d`"
  | trailingComma => "trailing comma"
  | trailingCharacters => "trailing characters"
  | misspeltWord => "expected ident"
  | invalidNumber => "invalid number"
  | numberOutOfRange => "number out of range"
  | controlCharacter => "control character (\\u0000-\\u001F) found while parsing a string"
  | invalidEscape => "invalid escape"
  | loneSurrogate => "lone leading surrogate in hex escape"
  | unfinishedSurrogate => "unexpected end of hex escape"
  | tooDeep => "recursion limit exceeded"

/-- Whether the text ended too early, as opposed to going on wrongly. -/
def isEnd : Malformed → Bool
  | endInValue | endInList | endInObject | endInString => true
  | _ => false

end Malformed

/-! ## JSON of the wrong shape -/

/-- The ways in which a value fails to be of the expected shape. -/
inductive Mismatch
  | wrongType (found : Json) (expected : String)
  | wrongValue (found : Json) (expected : String)
  | wrongLength (length : Nat) (expected : String)
  | missingField (name : String)
  | duplicateField (name : String)
  | unknownVariant (name : String) (expected : List String)
  | other (message : String)

/-- How a value is called in a message. -/
def described : Json → String
  | null => "null"
  | bool value => "boolean `" ++ (if value then "true" else "false") ++ "`"
  | number (.integer value) => "integer `" ++ toString value ++ "`"
  | number (.float value) => "floating point `" ++ value.text ++ "`"
  | string value => "string " ++ Quoted.quote value
  | array _ => "sequence"
  | object _ => "map"

/-- The alternatives of a message: one, two, or a list. -/
def alternatives (names : List String) : String :=
  let ticked := names.map fun name => "`" ++ name ++ "`"
  match ticked with
  | [one] => one
  | [one, two] => one ++ " or " ++ two
  | _ => "one of " ++ ", ".intercalate ticked

namespace Mismatch

/-- The message for each kind of mismatch. -/
def message : Mismatch → String
  | wrongType found expected => "invalid type: " ++ found.described ++ ", expected " ++ expected
  | wrongValue found expected => "invalid value: " ++ found.described ++ ", expected " ++ expected
  | wrongLength length expected =>
    "invalid length " ++ toString length ++ ", expected " ++ expected
  | missingField name => "missing field `" ++ name ++ "`"
  | duplicateField name => "duplicate field `" ++ name ++ "`"
  | unknownVariant name expected =>
    "unknown variant `" ++ name ++ "`, expected " ++ alternatives expected
  | other message => message

end Mismatch

/-! ## Faults -/

/-- The kinds of fault a reader of JSON text reports. -/
inductive FaultCategory
  | syntactic
  | ended
  | data
deriving DecidableEq, Repr

/-- A fault with its place.  The place of a mismatch is filled in by the innermost reader that knows
it. -/
inductive Fault
  | malformed (cause : Malformed) (place : Position)
  | mismatch (cause : Mismatch) (place : Option Position)

namespace Fault

def category : Fault → FaultCategory
  | malformed cause _ => if cause.isEnd then .ended else .syntactic
  | mismatch _ _ => .data

/-- The message with its place. -/
def message : Fault → String
  | malformed cause place => cause.message ++ place.text
  | mismatch cause place => cause.message ++ place.elim "" Position.text

/-- The message, with its place only where the text is malformed. -/
def shortMessage : Fault → String
  | malformed cause place => cause.message ++ place.text
  | mismatch cause _ => cause.message

end Fault

end EditorBridge.Json
