import EditorBridge.Log
import EditorBridge.Tree.Conventions
import EditorBridge.Json.Printer
/-!
Settings: the conventions of trees, and how results are printed.  A settings file overrides them field
by field; fields that mean nothing are reported.
-/

set_option autoImplicit false

namespace EditorBridge

/-- The settings of the program. -/
structure Settings where
  conventions : Conventions := {}
  /-- Whether JSON is printed with line breaks. -/
  pretty : Bool := false
deriving DecidableEq, Repr

/-- What can be wrong with settings. -/
inductive SettingsError
  | notObject
  | invalidField (name typeName : String) (found : Json) (cause : Json.Mismatch)

/-- The messages of an error, each followed by its cause. -/
def SettingsError.messages : SettingsError → List String
  | notObject => ["json::Value is not an object!"]
  | invalidField name typeName found cause =>
    ["Invalid field config." ++ name, "Expected type " ++ typeName ++ ", got " ++ found.compact,
      cause.message]

namespace Settings

/-- Fields of an object that have not been looked at. -/
abbrev Remaining : Type := List (String × Json)

/-- Takes the field of a name out.  The last field moves to its place. -/
def Remaining.take (remaining : Remaining) (name : String) : Option Json × Remaining :=
  match remaining.findIdx? fun field => field.1 == name with
  | none => (none, remaining)
  | some index =>
    let rest := remaining.dropLast
    match remaining[index]?, remaining.getLast? with
    | some field, some last => (some field.2, rest.set index last)
    | _, _ => (none, remaining)

/-- A computation that takes fields. -/
abbrev Reading (α : Type) : Type := StateT Remaining (Except SettingsError) α

/-- The value of a field, or a default where it is missing. -/
def readField {α : Type} (name typeName : String) (decoder : Json.Decoder α) (default : α) :
    Reading α := do
  let (found, rest) := (← get).take name
  set rest
  match found with
  | none => pure default
  | some value =>
    match decoder.decode value with
    | .ok result => pure result
    | .error cause => throw (.invalidField name typeName value cause)

/-- Takes all fields that have a meaning. -/
def read : Reading Settings := do
  let defaults : Conventions := {}
  let text (name default : String) : Reading String :=
    readField name "alloc::string::String" .string default
  let character (name : String) (default : Char) : Reading Char :=
    readField name "char" .character default
  let typeField ← text "typeField" defaults.typeField
  let refField ← text "refField" defaults.refField
  let pathPrefix ← character "pathPrefix" defaults.pathPrefix
  let segmentSeparator ← character "segmentSeparator" defaults.segmentSeparator
  let indexMarker ← character "indexMarker" defaults.indexMarker
  let pretty ← readField "pretty" "bool" .bool false
  return { conventions := { typeField, refField, pathPrefix, segmentSeparator, indexMarker }, pretty }

/-- The settings a JSON value describes, and what there is to report about its other fields. -/
def ofJson (value : Json) : Except SettingsError (Settings × List LogRecord) :=
  match value with
  | .object fields => do
    let (settings, unknown) ← read.run fields
    return (settings, unknown.map fun field =>
      ⟨.warn, "weft::config", "Unknown field config." ++ field.1⟩)
  | _ => .error .notObject

end Settings

end EditorBridge
