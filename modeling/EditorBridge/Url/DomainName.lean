import EditorBridge.Unicode.CaseFold
import EditorBridge.Unicode.Character
import EditorBridge.Url.Percent
import EditorBridge.Url.Punycode
/-!
Domain names in the form in which addresses hold them: lower case, and labels with characters outside
ASCII in their coded form.
-/

set_option autoImplicit false

namespace EditorBridge.DomainName

/-! ## Characters -/

/-- Characters that leave no trace in a name: the soft hyphen, invisible joiners and variation
selectors. -/
def ignored : CharSet :=
  [⟨0xAD, 0xAD⟩, ⟨0x34F, 0x34F⟩, ⟨0x180B, 0x180D⟩, ⟨0x180F, 0x180F⟩, ⟨0x200B, 0x200B⟩,
    ⟨0x2060, 0x2060⟩, ⟨0x2064, 0x2064⟩, ⟨0xFE00, 0xFE0F⟩, ⟨0xFEFF, 0xFEFF⟩, ⟨0xE0100, 0xE01EF⟩]

/-- The lower-case form of a character: the member of its orbit that is not upper case. -/
def lower (c : Char) : Char :=
  if c.toNat < 0x80 then c.toLower
  else if Character.isUppercase c then
    let orbit := ((CaseOrbit.orbits.find? (·.contains c.toNat)).getD []).map Char.ofNat
    (orbit.find? fun other => !Character.isUppercase other).getD c
  else c

/-- What a character is read as: full-width forms of ASCII characters as these, ideographic full stops
as dots, and capital letters as small ones. -/
def read (c : Char) : Char :=
  let code := c.toNat
  if code = 0x3002 ∨ code = 0xFF61 then '.'
  else if 0xFF01 ≤ code ∧ code ≤ 0xFF5E then (Char.ofNat (code - 0xFEE0)).toLower
  else lower c

/-- Marks, which cannot begin a label. -/
def marks : CharSet :=
  [Category.nonspacingMark, Category.spacingMark, Category.enclosingMark].flatMap CharSet.ofTable

/-- ASCII characters that no name can hold, controls and the space apart. -/
def forbidden : List Char := ['%', '#', '/', ':', '<', '>', '?', '@', '[', '\\', ']', '^', '|']

/-- Whether a name can hold a character. -/
def isAllowed (c : Char) : Bool :=
  if c.toNat < 0x80 then
    0x20 < c.toNat && c.toNat < 0x7F && !forbidden.contains c
  else !Character.invisible.has c && !ignored.has c

/-! ## Labels -/

/-- Whether a label with characters outside ASCII is well formed. -/
def isWellFormed (label : List Char) : Bool :=
  label.all (fun c => isAllowed c && read c == c) && !(label.head?.any marks.has)

def codedPrefix : List Char := ['x', 'n', '-', '-']

/-- The form of a label that a name holds, if there is one. -/
def label? (label : List Char) : Option (List Char) :=
  if codedPrefix.isPrefixOf label then do
    let decoded ← Punycode.decode? (label.drop codedPrefix.length)
    if isWellFormed decoded && decoded.any fun c => 0x80 ≤ c.toNat then some label else none
  else if label.all fun c => c.toNat < 0x80 then
    if label.all isAllowed then some label else none
  else if isWellFormed label then some (codedPrefix ++ Punycode.encode label)
  else none

/-! ## Names -/

/-- The domain name a text stands for, escapes in it undone. -/
def parse? (text : List Char) : Option String := do
  let decoded ← Percent.decodeText? text
  let name := (decoded.filter fun c => !ignored.has c).map read
  let labels ← (Text.splitOn '.' name).mapM label?
  return String.ofList (['.'].intercalate labels)

end EditorBridge.DomainName
