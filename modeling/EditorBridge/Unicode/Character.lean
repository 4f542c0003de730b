import EditorBridge.Unicode.Category
import EditorBridge.Unicode.Property
/-!
Questions about single characters.  Each one answers ASCII characters by a direct test and looks up
all others in a table.
-/

set_option autoImplicit false

namespace EditorBridge.Character

/-! ## Sets -/

def alphabetic : CharSet := CharSet.ofTable CharacterProperty.alphabetic

/-- Characters of the three number categories. -/
def numeric : CharSet :=
  [Category.decimalNumber, Category.letterNumber, Category.otherNumber].flatMap CharSet.ofTable

def digits : CharSet := CharSet.ofTable Category.decimalNumber

def uppercase : CharSet := CharSet.ofTable CharacterProperty.uppercase

def whiteSpace : CharSet :=
  [⟨0x9, 0xD⟩, ⟨0x20, 0x20⟩, ⟨0x85, 0x85⟩, ⟨0xA0, 0xA0⟩, ⟨0x1680, 0x1680⟩, ⟨0x2000, 0x200A⟩,
    ⟨0x2028, 0x2029⟩, ⟨0x202F, 0x202F⟩, ⟨0x205F, 0x205F⟩, ⟨0x3000, 0x3000⟩]

/-- Characters that words are made of: letters, marks, decimal digits, connecting punctuation and
joiners. -/
def word : CharSet :=
  [CharacterProperty.alphabetic, Category.nonspacingMark, Category.spacingMark,
    Category.enclosingMark, Category.decimalNumber, Category.connectorPunctuation,
    CharacterProperty.joinControl].flatMap CharSet.ofTable

def graphemeExtend : CharSet := CharSet.ofTable CharacterProperty.graphemeExtend

/-- Characters without a visible form of their own: controls, formats, private and unassigned code
points, and separators. -/
def invisible : CharSet :=
  [Category.control, Category.format, Category.privateUse, Category.unassigned,
    Category.lineSeparator, Category.paragraphSeparator, Category.spaceSeparator].flatMap
    CharSet.ofTable

/-! ## Tests -/

def isAlphabetic (c : Char) : Bool := if c.toNat < 0x80 then c.isAlpha else alphabetic.has c

def isNumeric (c : Char) : Bool := if c.toNat < 0x80 then c.isDigit else numeric.has c

def isAlphanumeric (c : Char) : Bool := isAlphabetic c || isNumeric c

def isUppercase (c : Char) : Bool := if c.toNat < 0x80 then c.isUpper else uppercase.has c

def isWhitespace (c : Char) : Bool := whiteSpace.has c

def isWord (c : Char) : Bool :=
  if c.toNat < 0x80 then c.isAlphanum || c == '_' else word.has c

def isAsciiWord (c : Char) : Bool := c.toNat < 0x80 && (c.isAlphanum || c == '_')

def isGraphemeExtend (c : Char) : Bool := if c.toNat < 0x80 then false else graphemeExtend.has c

/-- Whether a character is shown as itself in quoted text. -/
def isPrintable (c : Char) : Bool :=
  if c.toNat < 0x80 then 0x20 ≤ c.toNat && c.toNat < 0x7F else !invisible.has c

end EditorBridge.Character
