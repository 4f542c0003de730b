import EditorBridge.Json.Basic
/-!
The text of a JSON value, compact or with two spaces of indentation per level.
-/

set_option autoImplicit false

namespace EditorBridge.Json

/-! ## Strings -/

/-- The lower-case hexadecimal digit of a number below sixteen. -/
def hexDigit (n : Nat) : Char := Nat.digitChar n

/-- The form of one character inside a string. -/
def escape (c : Char) : List Char :=
  if c = '"' then ['\\', '"']
  else if c = '\\' then ['\\', '\\']
  else if c = '\x08' then ['\\', 'b']
  else if c = '\x0c' then ['\\', 'f']
  else if c = '\n' then ['\\', 'n']
  else if c = '\r' then ['\\', 'r']
  else if c = '\t' then ['\\', 't']
  else if c.toNat < 0x20 then
    ['\\', 'u', '0', '0', hexDigit (c.toNat / 16), hexDigit (c.toNat % 16)]
  else [c]

def quoted (text : String) : String :=
  String.ofList ('"' :: text.toList.flatMap escape ++ ['"'])

/-! ## Values -/

mutual
/-- The compact text of a value, without any blank. -/
def compact : Json → String
  | null => "null"
  | bool value => if value then "true" else "false"
  | number value => value.text
  | string value => quoted value
  | array items => "[" ++ ",".intercalate (compactItems items) ++ "]"
  | object fields => "\x7b" ++ ",".intercalate (compactFields fields) ++ "\x7d"
termination_by structural value => value

def compactItems : List Json → List String
  | [] => []
  | item :: rest => compact item :: compactItems rest
termination_by structural items => items

def compactFields : List (String × Json) → List String
  | [] => []
  | (key, value) :: rest => (quoted key ++ ":" ++ compact value) :: compactFields rest
termination_by structural fields => fields
end

/-- Entries of a list or object, each on a line of its own one level deeper than the brackets. -/
def block (indent opening closing : String) (entries : List String) : String :=
  if entries.isEmpty then opening ++ closing
  else
    let inner := "\n" ++ indent ++ "  "
    opening ++ inner ++ ("," ++ inner).intercalate entries ++ "\n" ++ indent ++ closing

mutual
/-- The indented text of a value whose first line is already indented. -/
def indented (indent : String) : Json → String
  | array items => block indent "[" "]" (indentedItems (indent ++ "  ") items)
  | object fields => block indent "\x7b" "\x7d" (indentedFields (indent ++ "  ") fields)
  | value => compact value
termination_by structural value => value

def indentedItems (indent : String) : List Json → List String
  | [] => []
  | item :: rest => indented indent item :: indentedItems indent rest
termination_by structural items => items

def indentedFields (indent : String) : List (String × Json) → List String
  | [] => []
  | (key, value) :: rest =>
    (quoted key ++ ": " ++ indented indent value) :: indentedFields indent rest
termination_by structural fields => fields
end

/-- The text of a value with line breaks and two spaces per level. -/
def pretty (value : Json) : String := indented "" value

end EditorBridge.Json
