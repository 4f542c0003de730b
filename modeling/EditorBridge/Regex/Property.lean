import EditorBridge.Regex.Syntax
import EditorBridge.Unicode.Age
import EditorBridge.Unicode.Category
import EditorBridge.Unicode.Property
import EditorBridge.Unicode.Script
import EditorBridge.Unicode.Segmentation
/-!
Classes of characters that a regular expression asks for by name.  A single name is looked up among
the two-valued properties, then the categories, then the scripts.
-/

set_option autoImplicit false

namespace EditorBridge.Regex.PropertyQuery

/-- The letters of a name that count: neither blanks, underscores and dashes nor characters outside
ASCII do, and upper case reads as lower case. -/
def significant (name : List Char) : List Char :=
  (name.filter fun c => !(c == ' ' || c == '_' || c == '-') && c.toNat < 0x80).map Char.toLower

/-- The normalized form of a name.  `is` in front of it is dropped, except that `isc` stays a name of
its own. -/
def normalize (name : String) : String :=
  match name.toList with
  | first :: second :: rest =>
    if first.toLower = 'i' ∧ second.toLower = 's' then
      let short := significant rest
      if short = ['c'] then "isc" else String.ofList short
    else String.ofList (significant (first :: second :: rest))
  | short => String.ofList (significant short)

/-- Names of categories that are names of other things as well; here they name categories. -/
def ambiguousNames : List String := ["cf", "sc", "lc"]

def charactersNamed? (name : String) : Option CharSet :=
  let property := if ambiguousNames.contains name then none else CharacterProperty.named? name
  property <|> Category.named? name <|>
    (Script.named? name).map fun script => CharSet.ofTable script.members

/-- The characters for which a property, given by its normalized name, has a value. -/
def charactersValued? (property value : String) : Option CharSet :=
  if property = "generalcategory" ∨ property = "gc" then Category.named? value
  else if property = "script" ∨ property = "sc" then
    (Script.named? value).map fun script => CharSet.ofTable script.members
  else if property = "scriptextensions" ∨ property = "scx" then
    (Script.named? value).map fun script => CharSet.ofTable script.used
  else if property = "age" then Age.named? value
  else if property = "graphemeclusterbreak" ∨ property = "gcb" then
    CharSet.named? Segmentation.graphemeClusterBreak value
  else if property = "wordbreak" ∨ property = "wb" then CharSet.named? Segmentation.wordBreak value
  else if property = "sentencebreak" ∨ property = "sb" then
    CharSet.named? Segmentation.sentenceBreak value
  else none

/-- The characters a query asks for, if its names are known. -/
def characters? : PropertyQuery → Option CharSet
  | named name => charactersNamed? (normalize name)
  | valued property value => charactersValued? (normalize property) (normalize value)

end EditorBridge.Regex.PropertyQuery
