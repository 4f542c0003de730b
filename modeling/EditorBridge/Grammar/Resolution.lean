import EditorBridge.Grammar.Basic
import EditorBridge.Grammar.Diagnostics
/-!
Making a grammar from its model.  A first pass over the rules enters their names into a table, a second pass
resolves their calls by that table.  Both report problems as they meet them: names that are taken already, and
calls of names that no rule has.
-/

set_option autoImplicit false

namespace EditorBridge

/-- An action that may add problems to those collected before. -/
abbrev Reporting := StateM Diagnostics

def Reporting.report (problem : RuleProblem) : Reporting Unit := modify (·.report problem)

/-- The rules that names stand for. -/
structure NameTable where
  entries : List (String × RuleHandle) := []
deriving Repr

namespace NameTable

/-! ## Names -/

/-- The rule that a name stands for. -/
def find? (table : NameTable) (name : String) : Option RuleHandle := table.entries.lookup name

/-- Enters a rule under its name.  A name that is taken stays with the rule that has it. -/
def enter (table : NameTable) (rule : RuleModel) (handle : RuleHandle) : Reporting NameTable :=
  match table.find? rule.name with
  | some _ => do
    Reporting.report (.duplicateName rule.name)
    return table
  | none => return ⟨(rule.name, handle) :: table.entries⟩

/-- Enters all rules.  Handles are given out in declaration order, so the place of a rule is its handle. -/
def ofRules (rules : List RuleModel) : Reporting NameTable :=
  rules.zipIdx.foldlM (fun table (rule, index) => table.enter rule ⟨index⟩) {}

/-! ## Calls -/

/-- The rule that is called by a name in another rule. -/
def resolveCall (table : NameTable) (rule called : String) : Reporting (Option RuleHandle) :=
  match table.find? called with
  | some handle => return some handle
  | none => do
    Reporting.report (.unknownRule rule called)
    return none

mutual
/-- An element of a rule with its calls resolved. -/
def resolve (table : NameTable) (rule : String) : ElementModel → Reporting Element
  | .keyword _ value => return .keyword value
  | .ruleCall _ called => return .ruleCall (← resolveCall table rule called)
  | .assignment _ feature _ terminal => return .assignment feature (← resolve table rule terminal)
  | .group _ elements => return .group (← resolveList table rule elements)
  | .alternatives _ elements => return .alternatives (← resolveList table rule elements)
  | .unorderedGroup _ elements => return .unorderedGroup (← resolveList table rule elements)
  | .crossReference _ _ terminal => return .crossReference (← resolveOption table rule terminal)
  | .action _ _ => return .action
termination_by structural element => element

def resolveList (table : NameTable) (rule : String) : List ElementModel → Reporting (List Element)
  | [] => return []
  | element :: rest => return (← resolve table rule element) :: (← resolveList table rule rest)
termination_by structural elements => elements

def resolveOption (table : NameTable) (rule : String) : Option ElementModel → Reporting (Option Element)
  | none => return none
  | some element => return some (← resolve table rule element)
termination_by structural element => element
end

def resolveRule (table : NameTable) : RuleModel → Reporting Rule
  | .parser rule => return ⟨rule.name, none, rule.entry, false, false,
      .parser (← table.resolve rule.name rule.definition)⟩
  | .terminal rule => return ⟨rule.name, rule.typeName, false, rule.hidden, rule.fragment,
      .terminal rule.definition⟩

end NameTable

/-- A grammar with the table of its names. -/
structure NamedGrammar extends Grammar where
  names : NameTable
deriving Repr

def NamedGrammar.lookup (grammar : NamedGrammar) (name : String) : Option RuleHandle :=
  grammar.names.find? name

namespace GrammarModel

/-- Makes the grammar of a model. -/
def build (model : GrammarModel) : Reporting NamedGrammar := do
  let names ← NameTable.ofRules model.rules
  let rules ← model.rules.mapM names.resolveRule
  return ⟨⟨rules⟩, names⟩

/-- The grammar of a model, its problems added to those collected before. -/
def load (model : GrammarModel) (diagnostics : Diagnostics) : NamedGrammar × Diagnostics :=
  model.build.run diagnostics

end GrammarModel

end EditorBridge
