import EditorBridge.Grammar.Model
import EditorBridge.Json.Decoder
/-!
Grammar models as JSON, in both directions.  Rules, elements and terminal definitions carry their
kind under `kind`; what has a default is written out all the same.
-/

set_option autoImplicit false

namespace EditorBridge

/-! ## Writing -/

namespace Cardinality

def sign : Cardinality → String
  | optional => "?"
  | many => "*"
  | atLeastOne => "+"

def all : List Cardinality := [optional, many, atLeastOne]

/-- The field that an element has if its cardinality is set. -/
def field (cardinality : Option Cardinality) : List (String × Json) :=
  (cardinality.map fun cardinality => ("cardinality", Json.string cardinality.sign)).toList

end Cardinality

namespace ElementModel

mutual
def toJson : ElementModel → Json
  | keyword cardinality value => .object (Cardinality.field cardinality ++
      [("kind", .string "keyword"), ("value", .string value)])
  | ruleCall cardinality rule => .object (Cardinality.field cardinality ++
      [("kind", .string "ruleCall"), ("rule", .string rule)])
  | assignment cardinality feature operator terminal => .object (Cardinality.field cardinality ++
      [("kind", .string "assignment"), ("feature", .string feature),
        ("operator", .string operator), ("terminal", toJson terminal)])
  | group cardinality elements => .object (Cardinality.field cardinality ++
      [("kind", .string "group"), ("elements", .array (listToJson elements))])
  | alternatives cardinality elements => .object (Cardinality.field cardinality ++
      [("kind", .string "alternatives"), ("elements", .array (listToJson elements))])
  | unorderedGroup cardinality elements => .object (Cardinality.field cardinality ++
      [("kind", .string "unorderedGroup"), ("elements", .array (listToJson elements))])
  | crossReference cardinality typeName terminal => .object (Cardinality.field cardinality ++
      [("kind", .string "crossReference"), ("type", .string typeName),
        ("terminal", optionToJson terminal)])
  | action cardinality typeName => .object (Cardinality.field cardinality ++
      [("kind", .string "action"), ("type", .string typeName)])
termination_by structural element => element

def listToJson : List ElementModel → List Json
  | [] => []
  | element :: rest => toJson element :: listToJson rest
termination_by structural elements => elements

def optionToJson : Option ElementModel → Json
  | none => .null
  | some element => toJson element
termination_by structural element => element
end

end ElementModel

namespace TerminalDefinition

mutual
def toJson : TerminalDefinition → Json
  | regex pattern => .object [("kind", .string "regex"), ("pattern", .string pattern)]
  | literal value => .object [("kind", .string "literal"), ("value", .string value)]
  | ruleCall rule => .object [("kind", .string "ruleCall"), ("rule", .string rule)]
  | group elements => .object
      [("kind", .string "group"), ("elements", .array (listToJson elements))]
  | alternatives elements => .object
      [("kind", .string "alternatives"), ("elements", .array (listToJson elements))]
termination_by structural definition => definition

def listToJson : List TerminalDefinition → List Json
  | [] => []
  | definition :: rest => toJson definition :: listToJson rest
termination_by structural definitions => definitions
end

end TerminalDefinition

def RuleModel.toJson : RuleModel → Json
  | parser rule => .object [("kind", .string "parser"), ("name", .string rule.name),
      ("entry", .bool rule.entry), ("definition", rule.definition.toJson)]
  | terminal rule => .object [("kind", .string "terminal"), ("name", .string rule.name),
      ("type", .ofOption rule.typeName), ("hidden", .bool rule.hidden),
      ("fragment", .bool rule.fragment), ("definition", rule.definition.toJson)]

def GrammarModel.toJson (model : GrammarModel) : Json :=
  .object [("name", .string model.name), ("rules", .array (model.rules.map RuleModel.toJson))]

/-! ## Reading -/

open Json (Decoder Mismatch)

namespace Cardinality

def ofSign (sign : String) : Except Mismatch Cardinality :=
  match all.find? fun cardinality => cardinality.sign == sign with
  | some cardinality => .ok cardinality
  | none => .error (.unknownVariant sign (all.map Cardinality.sign))

/-- A cardinality from its sign, which may also be the only key of an object that holds nothing. -/
def decode : Json → Except Mismatch Cardinality
  | .string sign => ofSign sign
  | .object [(sign, content)] => do
    let cardinality ← ofSign sign
    match content with
    | .null | .object [] => return cardinality
    | content => throw (.wrongType content "unit")
  | .object fields => .error (.wrongValue (.object fields) "map with a single key")
  | value => .error (.wrongType value "string or map")

/-- Takes the cardinality out of the fields of an element; `found` is the one met before. -/
def split : List (String × Json) → Option (Option Cardinality) →
    Except Mismatch (Option Cardinality × List (String × Json))
  | [], found => .ok (found.getD none, [])
  | (name, value) :: rest, found =>
    if name == "cardinality" then
      if found.isSome then .error (.duplicateField "cardinality")
      else do
        let cardinality ← (Decoder.option (.buffered decode)).decode value
        split rest (some cardinality)
    else do
      let (cardinality, others) ← split rest found
      return (cardinality, (name, value) :: others)

end Cardinality

namespace ElementModel

/-- The kinds of elements, with the cardinality found, given how the parts of an element are
decoded. -/
def variants (part : Json → Except Mismatch ElementModel) (cardinality : Option Cardinality) :
    List (Decoder.Variant ElementModel) :=
  let elements : Json.Field (List ElementModel) := ⟨"elements", .list (.buffered part), .required⟩
  [.record "keyword" "ElementKind::Keyword" [String]
      (⟨"value", .string, .required⟩, ())
      fun (value, _) => keyword cardinality value,
    .record "ruleCall" "ElementKind::RuleCall" [String]
      (⟨"rule", .string, .required⟩, ())
      fun (rule, _) => ruleCall cardinality rule,
    .record "assignment" "ElementKind::Assignment" [String, String, ElementModel]
      (⟨"feature", .string, .required⟩, ⟨"operator", .string, .required⟩,
        ⟨"terminal", .buffered part, .required⟩, ())
      fun (feature, operator, terminal, _) =>
        assignment cardinality feature operator terminal,
    .record "group" "ElementKind::Group" [List ElementModel]
      (elements, ())
      fun (elements, _) => group cardinality elements,
    .record "alternatives" "ElementKind::Alternatives" [List ElementModel]
      (elements, ())
      fun (elements, _) => alternatives cardinality elements,
    .record "unorderedGroup" "ElementKind::UnorderedGroup" [List ElementModel]
      (elements, ())
      fun (elements, _) => unorderedGroup cardinality elements,
    .record "crossReference" "ElementKind::CrossReference" [String, Option ElementModel]
      (⟨"type", .string, .required⟩, ⟨"terminal", .option (.buffered part), .defaulted none⟩, ())
      fun (typeName, terminal, _) => crossReference cardinality typeName terminal,
    .record "action" "ElementKind::Action" [String]
      (⟨"type", .string, .required⟩, ())
      fun (typeName, _) => action cardinality typeName]

/-- An element from JSON that is at most `depth` deep. -/
def decodeWithin : Nat → Json → Except Mismatch ElementModel
  | depth + 1, .object fields => do
    let (cardinality, others) ← Cardinality.split fields none
    Decoder.decodeTagged "internally tagged enum ElementKind" "kind"
      (variants (decodeWithin depth) cardinality) (.object others)
  | _, value => .error (.wrongType value "struct ElementModel")

def decode (value : Json) : Except Mismatch ElementModel := decodeWithin value.depth value

end ElementModel

namespace TerminalDefinition

/-- The kinds of terminal definitions, given how the parts of one are decoded. -/
def variants (part : Json → Except Mismatch TerminalDefinition) :
    List (Decoder.Variant TerminalDefinition) :=
  let elements : Json.Field (List TerminalDefinition) :=
    ⟨"elements", .list (.buffered part), .required⟩
  [.record "regex" "TerminalDefinition::Regex" [String]
      (⟨"pattern", .string, .required⟩, ())
      fun (pattern, _) => regex pattern,
    .record "literal" "TerminalDefinition::Literal" [String]
      (⟨"value", .string, .required⟩, ())
      fun (value, _) => literal value,
    .record "ruleCall" "TerminalDefinition::RuleCall" [String]
      (⟨"rule", .string, .required⟩, ())
      fun (rule, _) => ruleCall rule,
    .record "group" "TerminalDefinition::Group" [List TerminalDefinition]
      (elements, ())
      fun (elements, _) => group elements,
    .record "alternatives" "TerminalDefinition::Alternatives" [List TerminalDefinition]
      (elements, ())
      fun (elements, _) => alternatives elements]

/-- A terminal definition from JSON that is at most `depth` deep. -/
def decodeWithin : Nat → Json → Except Mismatch TerminalDefinition
  | 0, value => .error (.wrongType value "internally tagged enum TerminalDefinition")
  | depth + 1, value => Decoder.decodeTagged "internally tagged enum TerminalDefinition" "kind"
      (variants (decodeWithin depth)) value

def decode (value : Json) : Except Mismatch TerminalDefinition := decodeWithin value.depth value

end TerminalDefinition

def ParserRuleModel.decoder : Decoder ParserRuleModel :=
  .record [String, Bool, ElementModel] "struct ParserRuleModel"
    (⟨"name", .string, .required⟩, ⟨"entry", .bool, .defaulted false⟩,
      ⟨"definition", .buffered ElementModel.decode, .required⟩, ())
    fun (name, entry, definition, _) => ⟨name, entry, definition⟩

def TerminalRuleModel.decoder : Decoder TerminalRuleModel :=
  .record [String, Option String, Bool, Bool, TerminalDefinition]
    "struct TerminalRuleModel"
    (⟨"name", .string, .required⟩, ⟨"type", .option .string, .defaulted none⟩,
      ⟨"hidden", .bool, .defaulted false⟩, ⟨"fragment", .bool, .defaulted false⟩,
      ⟨"definition", .buffered TerminalDefinition.decode, .required⟩, ())
    fun (name, typeName, hidden, fragment, definition, _) =>
      ⟨name, typeName, hidden, fragment, definition⟩

def RuleModel.decoder : Decoder RuleModel :=
  .tagged "internally tagged enum RuleModel" "kind"
    [⟨"parser", fun value => parser <$> ParserRuleModel.decoder.decode value⟩,
      ⟨"terminal", fun value => terminal <$> TerminalRuleModel.decoder.decode value⟩]

def GrammarModel.decoder : Decoder GrammarModel :=
  .record [String, List RuleModel] "struct GrammarModel"
    (⟨"name", .string, .defaulted ""⟩, ⟨"rules", .list RuleModel.decoder, .required⟩, ())
    fun (name, rules, _) => ⟨name, rules⟩

end EditorBridge
