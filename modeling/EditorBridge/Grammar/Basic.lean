import EditorBridge.Grammar.Model
/-!
Grammars with resolved rule calls.  There are no scopes: every rule is visible from everywhere, and
of several rules of one name the first is meant.
-/

set_option autoImplicit false

namespace EditorBridge

/-- The handle of a rule, its place in declaration order. -/
structure RuleHandle where
  index : Nat
deriving DecidableEq, Repr, Inhabited

/-- An element of a parser rule whose calls are resolved; a call of a rule that does not exist leads
nowhere. -/
inductive Element
  | keyword (value : String)
  | ruleCall (rule : Option RuleHandle)
  | assignment (feature : String) (terminal : Element)
  | group (elements : List Element)
  | alternatives (elements : List Element)
  | unorderedGroup (elements : List Element)
  | crossReference (terminal : Option Element)
  | action
deriving Inhabited, Repr

/-- What a rule consists of. -/
inductive RuleBody
  | parser (element : Element)
  | terminal (definition : TerminalDefinition)
deriving Inhabited, Repr

/-- A rule. -/
structure Rule where
  name : String
  typeName : Option String
  entry : Bool
  hidden : Bool
  fragment : Bool
  body : RuleBody
deriving Inhabited, Repr

/-- A grammar: its rules in declaration order. -/
structure Grammar where
  rules : List Rule
deriving Inhabited, Repr

/-! ## Resolution -/

namespace ElementModel

mutual
/-- The element with every called name looked up. -/
def resolve (lookup : String → Option RuleHandle) : ElementModel → Element
  | keyword _ value => .keyword value
  | ruleCall _ rule => .ruleCall (lookup rule)
  | assignment _ feature _ terminal => .assignment feature (resolve lookup terminal)
  | group _ elements => .group (resolveList lookup elements)
  | alternatives _ elements => .alternatives (resolveList lookup elements)
  | unorderedGroup _ elements => .unorderedGroup (resolveList lookup elements)
  | crossReference _ _ terminal => .crossReference (resolveOption lookup terminal)
  | action _ _ => .action
termination_by structural element => element

def resolveList (lookup : String → Option RuleHandle) : List ElementModel → List Element
  | [] => []
  | element :: rest => resolve lookup element :: resolveList lookup rest
termination_by structural elements => elements

def resolveOption (lookup : String → Option RuleHandle) : Option ElementModel → Option Element
  | none => none
  | some element => some (resolve lookup element)
termination_by structural element => element
end

end ElementModel

namespace GrammarModel

/-- The first rule of a name. -/
def lookup (model : GrammarModel) (name : String) : Option RuleHandle :=
  (model.rules.findIdx? fun rule => rule.name == name).map RuleHandle.mk

def resolveRule (model : GrammarModel) : RuleModel → Rule
  | .parser rule => ⟨rule.name, none, rule.entry, false, false,
      .parser (rule.definition.resolve model.lookup)⟩
  | .terminal rule => ⟨rule.name, rule.typeName, false, rule.hidden, rule.fragment,
      .terminal rule.definition⟩

def toGrammar (model : GrammarModel) : Grammar := ⟨model.rules.map model.resolveRule⟩

end GrammarModel

/-! ## Rules of a grammar -/

namespace Grammar

def rule? (grammar : Grammar) (handle : RuleHandle) : Option Rule := grammar.rules[handle.index]?

/-- All rules with their handles. -/
def handled (grammar : Grammar) : List (RuleHandle × Rule) :=
  grammar.rules.zipIdx.map fun (rule, index) => (⟨index⟩, rule)

/-- The parser rules with their handles and elements. -/
def parserRules (grammar : Grammar) : List (RuleHandle × Rule × Element) :=
  grammar.handled.filterMap fun (handle, rule) =>
    match rule.body with
    | .parser element => some (handle, rule, element)
    | .terminal _ => none

/-- The terminal rules with their handles and definitions. -/
def terminalRules (grammar : Grammar) : List (RuleHandle × Rule × TerminalDefinition) :=
  grammar.handled.filterMap fun (handle, rule) =>
    match rule.body with
    | .terminal definition => some (handle, rule, definition)
    | .parser _ => none

/-- The parser rules marked as entry, or all parser rules if none is. -/
def entryRules (grammar : Grammar) : List RuleHandle :=
  let entries := grammar.parserRules.filter fun (_, rule, _) => rule.entry
  (if entries.isEmpty then grammar.parserRules else entries).map fun (handle, _) => handle

end Grammar

end EditorBridge
