import EditorBridge.Json.Decoder
import EditorBridge.Json.Printer
import EditorBridge.Url.Basic
/-!
Diagnostics of documents as editors exchange them: a range, a message, and optional details.  What is
absent is not written.
-/

set_option autoImplicit false

namespace EditorBridge

/-! ## Addresses -/

/-- An address in a text. -/
def Url.decoder : Json.Decoder Url := .scalar fun
  | .string text =>
    match parse text with
    | .ok url => .ok url
    | .error error => .error (.other (error.message ++ ": " ++ Quoted.quote text))
  | value => .error (.wrongType value "a string representing an URL")

/-! ## Ranges -/

/-- A place in a document, line and character counted from zero. -/
structure TextPosition where
  line : Int
  character : Int
deriving DecidableEq, Repr

namespace TextPosition

/-- A place from JSON. -/
def decoder : Json.Decoder TextPosition :=
  .record [Int, Int] "struct Position" (⟨"line", .unsigned32, .required⟩,
    ⟨"character", .unsigned32, .required⟩, ()) fun (line, character, _) => ⟨line, character⟩

def toJson (position : TextPosition) : Json :=
  .object [("line", .number (.integer position.line)),
    ("character", .number (.integer position.character))]

end TextPosition

/-- What lies between two places of a document. -/
structure TextRange where
  start : TextPosition
  stop : TextPosition
deriving DecidableEq, Repr

namespace TextRange

def decoder : Json.Decoder TextRange :=
  .record [TextPosition, TextPosition] "struct Range" (⟨"start", TextPosition.decoder, .required⟩,
    ⟨"end", TextPosition.decoder, .required⟩, ()) fun (start, stop, _) => ⟨start, stop⟩

def toJson (range : TextRange) : Json :=
  .object [("start", range.start.toJson), ("end", range.stop.toJson)]

end TextRange

/-! ## Details -/

/-- The code of a diagnostic. -/
inductive DiagnosticCode
  | number (value : Int)
  | text (value : String)
deriving DecidableEq, Repr

namespace DiagnosticCode

/-- A code from JSON: an integer of 32 bits, or a text. -/
def decoder : Json.Decoder DiagnosticCode := .buffered fun value =>
  match Json.Decoder.signed32.decode value, value with
  | .ok code, _ => .ok (number code)
  | .error _, .string content => .ok (text content)
  | .error _, _ => .error (.other "data did not match any variant of untagged enum NumberOrString")

def toJson : DiagnosticCode → Json
  | number value => .number (.integer value)
  | text value => .string value

end DiagnosticCode

/-- A place in some document and what is there to say about it. -/
structure RelatedInformation where
  uri : Url
  range : TextRange
  message : String
deriving DecidableEq, Repr

namespace RelatedInformation

/-- The place alone from JSON. -/
def locationDecoder : Json.Decoder (Url × TextRange) :=
  .record [Url, TextRange] "struct Location" (⟨"uri", Url.decoder, .required⟩,
    ⟨"range", TextRange.decoder, .required⟩, ()) fun (uri, range, _) => (uri, range)

def decoder : Json.Decoder RelatedInformation :=
  .record [Url × TextRange, String] "struct DiagnosticRelatedInformation"
    (⟨"location", locationDecoder, .required⟩, ⟨"message", .string, .required⟩, ())
    fun ((uri, range), message, _) => ⟨uri, range, message⟩

def toJson (related : RelatedInformation) : Json :=
  .object [("location", .object [("uri", .string related.uri.text), ("range", related.range.toJson)]),
    ("message", .string related.message)]

end RelatedInformation

/-- Where a code is described, from JSON. -/
def codeDescriptionDecoder : Json.Decoder Url :=
  .record [Url] "struct CodeDescription" (⟨"href", Url.decoder, .required⟩, ()) fun (href, _) => href

/-! ## Diagnostics -/

/-- A diagnostic of a document. -/
structure DocumentDiagnostic where
  range : TextRange
  severity : Option Int
  code : Option DiagnosticCode
  /-- Where the code is described. -/
  codeDescription : Option Url
  source : Option String
  message : String
  related : Option (List RelatedInformation)
  tags : Option (List Int)
  data : Option Json

namespace DocumentDiagnostic

/-- A field that may be absent or null. -/
def optionalField {α : Type} (name : String) (decoder : Json.Decoder α) : Json.Field (Option α) :=
  ⟨name, decoder.option, .optional none⟩

def fields : Json.Row Json.Field [TextRange, Option Int, Option DiagnosticCode, Option Url,
    Option String, String, Option (List RelatedInformation), Option (List Int), Option Json] :=
  (⟨"range", TextRange.decoder, .required⟩, optionalField "severity" .signed32,
    optionalField "code" DiagnosticCode.decoder,
    optionalField "codeDescription" codeDescriptionDecoder, optionalField "source" .string,
    ⟨"message", .string, .required⟩,
    optionalField "relatedInformation" (.list RelatedInformation.decoder),
    optionalField "tags" (.list .signed32), optionalField "data" .any, ())

def decoder : Json.Decoder DocumentDiagnostic :=
  .record _ "struct Diagnostic" fields
    fun (range, severity, code, codeDescription, source, message, related, tags, data, _) =>
      { range, severity, code, codeDescription, source, message, related, tags, data }

def toJson (diagnostic : DocumentDiagnostic) : Json :=
  let field {α : Type} (name : String) (write : α → Json) (value : Option α) : List (String × Json) :=
    (value.map fun value => (name, write value)).toList
  let integer (value : Int) : Json := .number (.integer value)
  .object ([("range", diagnostic.range.toJson)] ++ field "severity" integer diagnostic.severity ++
    field "code" DiagnosticCode.toJson diagnostic.code ++
    field "codeDescription" (fun href => .object [("href", .string href.text)])
      diagnostic.codeDescription ++
    field "source" .string diagnostic.source ++ [("message", .string diagnostic.message)] ++
    field "relatedInformation" (fun related => .array (related.map RelatedInformation.toJson))
      diagnostic.related ++
    field "tags" (fun tags => .array (tags.map integer)) diagnostic.tags ++
    field "data" id diagnostic.data)

/-- Whether a diagnostic is an error.  Without a severity it counts as one. -/
def isError (diagnostic : DocumentDiagnostic) : Bool := diagnostic.severity.getD 1 == 1

end DocumentDiagnostic

end EditorBridge
