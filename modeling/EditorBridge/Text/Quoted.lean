import EditorBridge.Unicode.Character
/-!
Quoted text for messages.  A quote, a backslash and the common control characters get a short
escape, every other character that cannot be seen on its own is written by its code point.
-/

set_option autoImplicit false

namespace EditorBridge.Quoted

/-- The code point of a character in lower-case hexadecimal digits. -/
def hexDigits (c : Char) : List Char := Nat.toDigits 16 c.toNat

/-- The form of one character between quotes. -/
def escape (c : Char) : List Char :=
  if c = '"' then ['\\', '"']
  else if c = '\\' then ['\\', '\\']
  else if c = '\n' then ['\\', 'n']
  else if c = '\r' then ['\\', 'r']
  else if c = '\t' then ['\\', 't']
  else if c = '\x00' then ['\\', '0']
  else if Character.isGraphemeExtend c || !Character.isPrintable c then
    '\\' :: 'u' :: '{' :: hexDigits c ++ ['}']
  else [c]

/-- The text between quotes, with everything that needs it escaped. -/
def quote (text : String) : String :=
  String.ofList ('"' :: text.toList.flatMap escape ++ ['"'])

end EditorBridge.Quoted
