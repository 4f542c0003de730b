import EditorBridge.Text.CharSet
/-!
Percent encoding: a byte that may not stand for itself is written as a percent sign and two
hexadecimal digits.  Which ASCII characters are escaped depends on the part of the address; controls
and all other characters always are.
-/

set_option autoImplicit false

namespace EditorBridge.Percent

/-! ## Encoding -/

/-- An upper-case hexadecimal digit. -/
def hexDigit (digit : Nat) : Char :=
  if digit < 10 then Char.ofNat (0x30 + digit) else Char.ofNat (0x37 + digit)

def encodeByte (byte : UInt8) : List Char :=
  ['%', hexDigit (byte.toNat / 16), hexDigit (byte.toNat % 16)]

/-- One character, escaped if it has to be. -/
def encodeChar (isReserved : Char → Bool) (c : Char) : List Char :=
  if c.toNat < 0x20 || 0x7F ≤ c.toNat || isReserved c then
    (String.utf8EncodeChar c).flatMap encodeByte
  else [c]

/-- A text with all that has to be escaped. -/
def encode (isReserved : Char → Bool) (text : List Char) : List Char :=
  text.flatMap (encodeChar isReserved)

/-! ## Reserved characters -/

/-- Nothing is escaped but what always is. -/
def inOpaque (_ : Char) : Bool := false

def inFragment (c : Char) : Bool := [' ', '"', '<', '>', '`'].contains c

def inPath (c : Char) : Bool := inFragment c || ['#', '?', '{', '}'].contains c

/-- Escaped in the name and password of a user. -/
def inUserinfo (c : Char) : Bool :=
  inPath c || ['/', ':', ';', '=', '@', '[', '\\', ']', '^', '|'].contains c

/-- Escaped in a query; a quote is so only where the scheme is special. -/
def inQuery (special : Bool) (c : Char) : Bool :=
  [' ', '"', '#', '<', '>'].contains c || (special && c == '\'')

/-! ## Decoding -/

/-- The bytes of a text once escapes are undone; an incomplete escape stands for itself. -/
def decode : List Char → List UInt8
  | [] => []
  | '%' :: high :: low :: rest =>
    match CharSet.hexDigit? high, CharSet.hexDigit? low with
    | some h, some l => UInt8.ofNat (16 * h + l) :: decode rest
    | _, _ => 0x25 :: decode (high :: low :: rest)
  | c :: rest => String.utf8EncodeChar c ++ decode rest

/-- The text that bytes encode, if they do. -/
def decodeText? (text : List Char) : Option (List Char) :=
  (String.fromUTF8? ⟨(decode text).toArray⟩).map String.toList

end EditorBridge.Percent
