import EditorBridge.Json.Decoder
import EditorBridge.Text.Split
/-!
How nodes and references are spelled in a serialized tree: the fields that mark them, and the
characters of a reference path.  `Conventions.segments` reads a path.
-/

set_option autoImplicit false

namespace EditorBridge

/-! ## Names of fields -/

/-- The field that would hold a node's container. -/
def containerField : String := "$container"

/-- The field for the property by which a container holds a node. -/
def containerPropertyField : String := "$containerProperty"

/-- The field for the place of a node in a property that holds a list. -/
def containerIndexField : String := "$containerIndex"

/-- Whether a field describes a container.  Linking recomputes these fields, so documents cannot set
them. -/
def isContainerField (name : String) : Bool :=
  name == containerField || name == containerPropertyField || name == containerIndexField

/-! ## Conventions -/

/-- How nodes and references are spelled.  By default a node is `{"$type": "Item", ..}` and a
reference is `{"$ref": "#/items@0"}`. -/
structure Conventions where
  typeField : String := "$type"
  refField : String := "$ref"
  pathPrefix : Char := '#'
  segmentSeparator : Char := '/'
  indexMarker : Char := '@'
deriving DecidableEq, Repr, Inhabited

namespace Conventions

def toJson (conventions : Conventions) : Json :=
  .object [("typeField", .string conventions.typeField),
    ("refField", .string conventions.refField),
    ("pathPrefix", .string conventions.pathPrefix.toString),
    ("segmentSeparator", .string conventions.segmentSeparator.toString),
    ("indexMarker", .string conventions.indexMarker.toString)]

/-- The fields of conventions, each with its default. -/
def fields : Json.Row Json.Field [String, String, Char, Char, Char] :=
  (⟨"typeField", .string, .defaulted "$type"⟩, ⟨"refField", .string, .defaulted "$ref"⟩,
    ⟨"pathPrefix", .character, .defaulted '#'⟩, ⟨"segmentSeparator", .character, .defaulted '/'⟩,
    ⟨"indexMarker", .character, .defaulted '@'⟩, ())

/-- Conventions from JSON; what is left out has its default. -/
def decoder : Json.Decoder Conventions :=
  .record _ "struct Conventions" fields fun (typeField, refField, pathPrefix, separator, marker, _) =>
    ⟨typeField, refField, pathPrefix, separator, marker⟩

/-! ## Paths -/

/-- One step of a reference path: a property, and a place in it if it holds a list. -/
structure Segment where
  property : String
  index : Option Nat
deriving DecidableEq, Repr

def digitValue? (c : Char) : Option Nat := if c.isDigit then some (c.toNat - '0'.toNat) else none

/-- The number written by decimal digits, at least one of them, and below `2 ^ 64`. -/
def digitsValue? (digits : List Char) : Option Nat :=
  if digits.isEmpty then none
  else do
    let value ← digits.foldl (fun value c => do return (← value) * 10 + (← digitValue? c)) (some 0)
    if value < Nat.pow 2 64 then some value else none

/-- The index written by decimal digits after an optional plus sign. -/
def parseIndex? : List Char → Option Nat
  | '+' :: digits => digitsValue? digits
  | digits => digitsValue? digits

/-- The step that one segment of a path spells.  An index follows the last marker. -/
def parseSegment? (conventions : Conventions) (segment : List Char) : Option Segment :=
  match Text.splitAtLast conventions.indexMarker segment with
  | none => some ⟨String.ofList segment, none⟩
  | some (property, index) => do return ⟨String.ofList property, some (← parseIndex? index)⟩

/-- The steps of a path without its prefix.  Empty segments are passed over. -/
def segmentsOf (conventions : Conventions) (path : List Char) : Option (List Segment) :=
  ((Text.splitOn conventions.segmentSeparator path).filter fun segment => !segment.isEmpty).mapM
    conventions.parseSegment?

/-- The steps of a path, absent if it does not start with the prefix or an index is no number. -/
def segments (conventions : Conventions) (path : String) : Option (List Segment) :=
  match path.toList with
  | first :: rest => if first = conventions.pathPrefix then conventions.segmentsOf rest else none
  | [] => none

end Conventions

end EditorBridge
