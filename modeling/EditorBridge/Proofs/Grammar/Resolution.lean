import EditorBridge.Proofs.Grammar.Reporting
import Mathlib.Data.List.Forall2
/-!
What calls resolve to.  A grammar has the rules of its model at the same places, and each of them holds what its
model holds, only that a called name has become the handle of the first rule of that name
(`GrammarModel.load_resolves_calls`).
-/

set_option autoImplicit false

namespace EditorBridge

/-! ## Elements of the same shape -/

/-- An element with its calls resolved: it holds the same keywords, features and parts at the same places, and for
each called name what the name stands for. -/
inductive Resolves (lookup : String → Option RuleHandle) : ElementModel → Element → Prop
  | keyword (cardinality : Option Cardinality) (value : String) :
    Resolves lookup (.keyword cardinality value) (.keyword value)
  | ruleCall (cardinality : Option Cardinality) (name : String) :
    Resolves lookup (.ruleCall cardinality name) (.ruleCall (lookup name))
  | assignment (cardinality : Option Cardinality) (feature operator : String) {terminal : ElementModel}
      {resolved : Element} (h : Resolves lookup terminal resolved) :
    Resolves lookup (.assignment cardinality feature operator terminal) (.assignment feature resolved)
  | group (cardinality : Option Cardinality) {elements : List ElementModel} {resolved : List Element}
      (h : List.Forall₂ (Resolves lookup) elements resolved) :
    Resolves lookup (.group cardinality elements) (.group resolved)
  | alternatives (cardinality : Option Cardinality) {elements : List ElementModel} {resolved : List Element}
      (h : List.Forall₂ (Resolves lookup) elements resolved) :
    Resolves lookup (.alternatives cardinality elements) (.alternatives resolved)
  | unorderedGroup (cardinality : Option Cardinality) {elements : List ElementModel} {resolved : List Element}
      (h : List.Forall₂ (Resolves lookup) elements resolved) :
    Resolves lookup (.unorderedGroup cardinality elements) (.unorderedGroup resolved)
  | crossReference (cardinality : Option Cardinality) (typeName : String) {terminal : Option ElementModel}
      {resolved : Option Element} (h : Option.Rel (Resolves lookup) terminal resolved) :
    Resolves lookup (.crossReference cardinality typeName terminal) (.crossReference resolved)
  | action (cardinality : Option Cardinality) (typeName : String) :
    Resolves lookup (.action cardinality typeName) .action

namespace ElementModel

mutual
theorem resolves_resolve (lookup : String → Option RuleHandle) (element : ElementModel) :
    Resolves lookup element (element.resolve lookup) := by
  cases element with
  | keyword cardinality value => exact .keyword cardinality value
  | ruleCall cardinality rule => exact .ruleCall cardinality rule
  | assignment cardinality feature operator terminal =>
    exact .assignment cardinality feature operator (resolves_resolve lookup terminal)
  | group cardinality elements => exact .group cardinality (resolves_resolveList lookup elements)
  | alternatives cardinality elements => exact .alternatives cardinality (resolves_resolveList lookup elements)
  | unorderedGroup cardinality elements =>
    exact .unorderedGroup cardinality (resolves_resolveList lookup elements)
  | crossReference cardinality typeName terminal =>
    exact .crossReference cardinality typeName (resolves_resolveOption lookup terminal)
  | action cardinality typeName => exact .action cardinality typeName

theorem resolves_resolveList (lookup : String → Option RuleHandle) (elements : List ElementModel) :
    List.Forall₂ (Resolves lookup) elements (resolveList lookup elements) := by
  cases elements with
  | nil => exact .nil
  | cons element rest => exact .cons (resolves_resolve lookup element) (resolves_resolveList lookup rest)

theorem resolves_resolveOption (lookup : String → Option RuleHandle) (element : Option ElementModel) :
    Option.Rel (Resolves lookup) element (resolveOption lookup element) := by
  cases element with
  | none => exact .none
  | some element => exact .some (resolves_resolve lookup element)
end

end ElementModel

/-- A rule holds what its model holds, with its calls resolved. -/
inductive RuleModel.Becomes (lookup : String → Option RuleHandle) : RuleModel → Rule → Prop
  | parser (rule : ParserRuleModel) {element : Element} (h : Resolves lookup rule.definition element) :
    Becomes lookup (.parser rule) ⟨rule.name, none, rule.entry, false, false, .parser element⟩
  | terminal (rule : TerminalRuleModel) :
    Becomes lookup (.terminal rule)
      ⟨rule.name, rule.typeName, false, rule.hidden, rule.fragment, .terminal rule.definition⟩

/-! ## First rules -/

/-- At a place stands the first of some rules that has a name. -/
def FirstNamedAt (rules : List RuleModel) (name : String) (index : Nat) : Prop :=
  (∃ rule, rules[index]? = some rule ∧ rule.name = name) ∧
    ∀ earlier < index, ∀ rule, rules[earlier]? = some rule → rule.name ≠ name

theorem firstNamed_eq_some_iff {rules : List RuleModel} {name : String} {handle : RuleHandle} :
    firstNamed rules name = some handle ↔ FirstNamedAt rules name handle.index := by
  have hindex : firstNamed rules name = some handle ↔
      rules.findIdx? (fun rule => rule.name == name) = some handle.index := by
    rw [firstNamed, Option.map_eq_some_iff]
    constructor
    · rintro ⟨index, hindex, rfl⟩
      exact hindex
    · intro hindex
      exact ⟨handle.index, hindex, rfl⟩
  rw [hindex, List.findIdx?_eq_some_iff_getElem]
  constructor
  · rintro ⟨hlt, hname, hearlier⟩
    refine ⟨⟨_, List.getElem?_eq_getElem hlt, beq_iff_eq.mp hname⟩, ?_⟩
    intro earlier hbefore rule hrule hsame
    obtain ⟨_, rfl⟩ := List.getElem?_eq_some_iff.mp hrule
    exact hearlier earlier hbefore (beq_iff_eq.mpr hsame)
  · rintro ⟨⟨rule, hrule, hname⟩, hearlier⟩
    obtain ⟨hlt, rfl⟩ := List.getElem?_eq_some_iff.mp hrule
    refine ⟨hlt, beq_iff_eq.mpr hname, ?_⟩
    intro earlier hbefore hsame
    exact hearlier earlier hbefore _ (List.getElem?_eq_getElem _) (beq_iff_eq.mp hsame)

theorem firstNamed_eq_none_iff {rules : List RuleModel} {name : String} :
    firstNamed rules name = none ↔ ∀ rule ∈ rules, rule.name ≠ name := by
  rw [firstNamed, Option.map_eq_none_iff, List.findIdx?_eq_none_iff]
  simp

namespace GrammarModel

variable {model : GrammarModel}

theorem name_resolveRule (model : GrammarModel) (rule : RuleModel) :
    (model.resolveRule rule).name = rule.name := by
  cases rule <;> rfl

theorem becomes_resolveRule (model : GrammarModel) (rule : RuleModel) :
    rule.Becomes model.lookup (model.resolveRule rule) := by
  cases rule with
  | parser rule => exact .parser rule (rule.definition.resolves_resolve model.lookup)
  | terminal rule => exact .terminal rule

theorem becomes_rule?_toGrammar (model : GrammarModel) (handle : RuleHandle) :
    Option.Rel (RuleModel.Becomes model.lookup) model.rules[handle.index]? (model.toGrammar.rule? handle) := by
  rw [rule?_toGrammar]
  cases model.rules[handle.index]? with
  | none => exact .none
  | some rule => exact .some (model.becomes_resolveRule rule)

/-! ## Grammars of models -/

/-- A grammar has the rules of a model, and every call leads to the first rule of the called name. -/
structure ResolvesCalls (model : GrammarModel) (grammar : NamedGrammar) : Prop where
  /-- At each handle stands the rule that is declared at this place, and no rule stands anywhere else. -/
  rules : ∀ handle,
    Option.Rel (RuleModel.Becomes grammar.lookup) model.rules[handle.index]? (grammar.rule? handle)
  /-- The handle of a name is the place of the first rule that has it. -/
  lookup_iff : ∀ name handle,
    grammar.lookup name = some handle ↔ FirstNamedAt model.rules name handle.index
  lookup_none_iff : ∀ name, grammar.lookup name = none ↔ ∀ rule ∈ model.rules, rule.name ≠ name
  /-- The handles in the body of a rule lead to rules that have the called names. -/
  calls : ∀ handle element called, grammar.Parses handle element →
    element.Contains (.ruleCall (some called)) →
      ∃ rule name held, model.rules[handle.index]? = some (.parser rule) ∧ rule.definition.Calls name ∧
        grammar.lookup name = some called ∧ grammar.rule? called = some held ∧ held.name = name

/-- A call in the body of a rule leads to a rule that has the called name. -/
theorem exists_of_contains_ruleCall {handle called : RuleHandle} {element : Element}
    (hparses : model.toGrammar.Parses handle element)
    (hcontains : element.Contains (.ruleCall (some called))) :
    ∃ rule name held, model.rules[handle.index]? = some (.parser rule) ∧ rule.definition.Calls name ∧
      model.lookup name = some called ∧ model.toGrammar.rule? called = some held ∧ held.name = name := by
  obtain ⟨rule, hrule, rfl⟩ := parses_toGrammar_iff.mp hparses
  obtain ⟨name, hcalls, hlookup⟩ := ElementModel.contains_ruleCall_iff.mp hcontains
  obtain ⟨held, hheld, hname⟩ := name_of_lookup hlookup
  refine ⟨rule, name, model.resolveRule held, hrule, hcalls, hlookup, ?_, ?_⟩
  · rw [rule?_toGrammar, hheld, Option.map_some]
  · rw [name_resolveRule, hname]

/-- **Calls lead to the first rule of the called name**, whatever names are declared twice, called before they
are declared or not declared at all. -/
theorem load_resolves_calls (model : GrammarModel) (diagnostics : Diagnostics) :
    model.ResolvesCalls (model.load diagnostics).1 := by
  obtain ⟨names, hnames, hload⟩ := model.exists_load_eq
  have hlookup : (model.load diagnostics).1.lookup = model.lookup := by
    rw [hload]
    exact hnames
  have hgrammar : (model.load diagnostics).1.toGrammar = model.toGrammar := by rw [hload]
  constructor
  case rules =>
    intro handle
    rw [hlookup, hgrammar]
    exact model.becomes_rule?_toGrammar handle
  case lookup_iff =>
    intro name handle
    rw [hlookup]
    exact firstNamed_eq_some_iff
  case lookup_none_iff =>
    intro name
    rw [hlookup]
    exact firstNamed_eq_none_iff
  case calls =>
    rw [hlookup, hgrammar]
    exact fun _ _ _ hparses hcontains => exists_of_contains_ruleCall hparses hcontains

/-- A name that is declared twice means its first rule, also where it is called before that rule. -/
example : (List.range 3).map (fun index => (load ⟨"Test", [.parser ⟨"B", true, .ruleCall none "A"⟩,
    .parser ⟨"A", false, .ruleCall none "C"⟩, .parser ⟨"A", false, .ruleCall none "B"⟩]⟩ {}).1.callsOf
      ⟨index⟩) = [[⟨1⟩], [], [⟨0⟩]] := by decide

end GrammarModel

end EditorBridge
