import EditorBridge.Proofs.Grammar.Names
import EditorBridge.Tokenizer.Synthesis
/-!
Moving the rules of a grammar.  Its keywords are sorted, and no terminal is placed by its handle: so parser rules
can be moved anywhere, among themselves and among the terminals, and the tokenizer stays the same as long as the
terminals keep their order.
-/

set_option autoImplicit false

namespace EditorBridge

def RuleModel.terminal? : RuleModel → Option TerminalRuleModel
  | terminal rule => some rule
  | parser _ => none

def GrammarModel.terminals (model : GrammarModel) : List TerminalRuleModel :=
  model.rules.filterMap RuleModel.terminal?

namespace Grammar

/-- A rule with its definition, if it is a terminal. -/
def terminal? (rule : Rule) : Option (Rule × TerminalDefinition) :=
  match rule.body with
  | .terminal definition => some (rule, definition)
  | .parser _ => none

theorem map_snd_terminalRules (grammar : Grammar) :
    grammar.terminalRules.map Prod.snd = grammar.rules.filterMap terminal? := by
  have hrules : grammar.handled.map Prod.snd = grammar.rules := by
    rw [handled, List.map_map]
    exact List.zipIdx_map_fst 0 grammar.rules
  rw [← hrules, List.filterMap_map, terminalRules, List.map_filterMap]
  congr 1
  funext item
  obtain ⟨handle, rule⟩ := item
  unfold Function.comp terminal?
  cases hbody : rule.body <;> simp [hbody]

/-- Terminals are placed one after the other, and where they stand among all rules is not looked at. -/
theorem assemble_eq (grammar : Grammar) (words : List String) : grammar.assemble words =
    (grammar.rules.filterMap terminal?).foldl
      (fun assembly (rule, definition) => assembly.add words rule definition) {} := by
  rw [← map_snd_terminalRules, List.foldl_map]
  rfl

end Grammar

namespace GrammarModel

variable {model other : GrammarModel}

theorem filterMap_terminal?_toGrammar (model : GrammarModel) :
    model.toGrammar.rules.filterMap Grammar.terminal? = model.terminals.map fun rule =>
      (⟨rule.name, rule.typeName, false, rule.hidden, rule.fragment, .terminal rule.definition⟩,
        rule.definition) := by
  rw [toGrammar, terminals, List.filterMap_map, List.map_filterMap]
  congr 1
  funext rule
  cases rule <;> rfl

theorem assemble_eq_of_terminals (h : model.terminals = other.terminals) (words : List String) :
    model.toGrammar.assemble words = other.toGrammar.assemble words := by
  rw [Grammar.assemble_eq, Grammar.assemble_eq, filterMap_terminal?_toGrammar, filterMap_terminal?_toGrammar, h]

/-- **Only the order of terminals matters.**  Grammars that have the same rules, all of different names, have
the same tokenizer if their terminals are in the same order. -/
theorem tokenizer_eq_of_perm (hperm : model.rules.Perm other.rules)
    (hnames : (model.rules.map RuleModel.name).Nodup) (hterminals : model.terminals = other.terminals) :
    model.toGrammar.tokenizer = other.toGrammar.tokenizer := by
  have hkeywords := keywords_eq_of_perm hperm hnames
  have hassemble := assemble_eq_of_terminals hterminals other.toGrammar.keywords.words
  rw [Grammar.tokenizer, Grammar.tokenizer, hkeywords, hassemble]

def statement : RuleModel :=
  .parser ⟨"Statement", false, .group none [.keyword none "if", .ruleCall none "Expression",
    .keyword none "then", .ruleCall none "Statement"]⟩

def expression : RuleModel :=
  .parser ⟨"Expression", false, .alternatives none [.ruleCall none "Word",
    .group none [.keyword none "(", .ruleCall none "Expression", .keyword none ")"]]⟩

def word : RuleModel := .terminal ⟨"Word", none, false, false, .regex "[a-z]+"⟩

def blank : RuleModel := .terminal ⟨"Blank", none, true, false, .regex "\\s+"⟩

/-- When the statement is moved behind all others, every rule gets another handle and the literals are found in
another order. -/
theorem tokenizer_eq_of_statement_last :
    (toGrammar ⟨"Nested", [statement, word, expression, blank]⟩).literals = ["(", ")", "if", "then"] ∧
      (toGrammar ⟨"Nested", [word, expression, blank, statement]⟩).literals = ["if", "then", "(", ")"] ∧
      (toGrammar ⟨"Nested", [statement, word, expression, blank]⟩).tokenizer =
        (toGrammar ⟨"Nested", [word, expression, blank, statement]⟩).tokenizer := by
  have hperm : [statement, word, expression, blank].Perm [word, expression, blank, statement] :=
    (List.perm_append_singleton statement [word, expression, blank]).symm
  exact ⟨by decide, by decide, tokenizer_eq_of_perm hperm (by decide) rfl⟩

end GrammarModel

end EditorBridge
