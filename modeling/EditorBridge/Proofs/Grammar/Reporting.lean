import EditorBridge.Grammar.Resolution
import EditorBridge.Proofs.Grammar.Names
import Mathlib.Data.List.Basic
import Mathlib.Data.List.Induction
/-!
What the making of a grammar reports.  An action on its problems is known by the value it yields and the problems
it adds, whatever was collected before (`Reporting.Yields`).  The first pass reports the rules whose name is
taken, the second one the calls of names that no rule has, in pre-order; and together they make the grammar of
the model (`GrammarModel.exists_load_eq`).
-/

set_option autoImplicit false

namespace EditorBridge

namespace Diagnostics

theorem reportAll_nil (diagnostics : Diagnostics) : diagnostics.reportAll [] = diagnostics :=
  congrArg Diagnostics.mk (List.append_nil _)

theorem reportAll_reportAll (diagnostics : Diagnostics) (problems others : List RuleProblem) :
    (diagnostics.reportAll problems).reportAll others = diagnostics.reportAll (problems ++ others) :=
  congrArg Diagnostics.mk (List.append_assoc _ _ _)

end Diagnostics

/-! ## What an action reports -/

namespace Reporting

variable {α β : Type} {action : Reporting α} {next : α → Reporting β} {value : α} {result : β}
  {problems others : List RuleProblem}

/-- An action yields a value and adds problems to those collected before, whatever these are. -/
def Yields (action : Reporting α) (value : α) (problems : List RuleProblem) : Prop :=
  ∀ diagnostics, action.run diagnostics = (value, diagnostics.reportAll problems)

theorem Yields.pure (value : α) : Yields (Pure.pure value) value [] := by
  intro diagnostics
  rw [Diagnostics.reportAll_nil]
  rfl

theorem Yields.report (problem : RuleProblem) : Yields (report problem) () [problem] := fun _ => rfl

theorem Yields.bind (h : Yields action value problems) (hnext : Yields (next value) result others) :
    Yields (action >>= next) result (problems ++ others) := by
  intro diagnostics
  have hrun : (action >>= next).run diagnostics = (next (action.run diagnostics).1).run
      (action.run diagnostics).2 := rfl
  rw [hrun, h, hnext, Diagnostics.reportAll_reportAll]

theorem Yields.map (f : α → β) (h : Yields action value problems) :
    Yields (action >>= fun value => Pure.pure (f value)) (f value) problems := by
  have hbind : Yields (action >>= fun value => Pure.pure (f value)) (f value) (problems ++ []) :=
    h.bind (.pure (f value))
  rwa [List.append_nil] at hbind

theorem Yields.mapM {f : α → Reporting β} {g : α → β} {reported : α → List RuleProblem}
    {items : List α} (h : ∀ item ∈ items, Yields (f item) (g item) (reported item)) :
    Yields (items.mapM f) (items.map g) (items.flatMap reported) := by
  induction items with
  | nil =>
    rw [List.mapM_nil]
    exact .pure []
  | cons item items ih =>
    have hfirst := h item List.mem_cons_self
    have hrest := ih fun other hother => h other (List.mem_cons_of_mem _ hother)
    rw [List.mapM_cons]
    exact hfirst.bind (hrest.map (g item :: ·))

end Reporting

open Reporting

/-! ## Elements in pre-order -/

namespace ElementModel

mutual
/-- An element and all elements in it, each of them before those it consists of. -/
def preOrder (element : ElementModel) : List ElementModel :=
  element ::
    match element with
    | assignment _ _ _ terminal => preOrder terminal
    | group _ elements | alternatives _ elements | unorderedGroup _ elements => preOrderList elements
    | crossReference _ _ terminal => preOrderOption terminal
    | keyword _ _ | ruleCall _ _ | action _ _ => []
termination_by structural element

def preOrderList : List ElementModel → List ElementModel
  | [] => []
  | element :: rest => preOrder element ++ preOrderList rest
termination_by structural elements => elements

/-- An element that may be absent and all elements in it. -/
def preOrderOption : Option ElementModel → List ElementModel
  | none => []
  | some element => preOrder element
termination_by structural element => element
end

/-- The name that an element calls, if it is a call. -/
def called? : ElementModel → Option String
  | ruleCall _ rule => some rule
  | _ => none

/-- The names called in an element, in pre-order, as often as they are called. -/
def calledNames (element : ElementModel) : List String := element.preOrder.filterMap called?

theorem preOrderList_eq_flatMap (elements : List ElementModel) :
    preOrderList elements = elements.flatMap preOrder := by
  induction elements with
  | nil => rfl
  | cons element rest ih => rw [preOrderList, ih, List.flatMap_cons]

theorem preOrder_eq (element : ElementModel) :
    element.preOrder = element :: element.parts.flatMap preOrder := by
  cases element with
  | group _ elements | alternatives _ elements | unorderedGroup _ elements =>
    rw [preOrder, parts, preOrderList_eq_flatMap]
  | crossReference _ _ terminal => cases terminal <;> simp [preOrder, preOrderOption, parts]
  | _ => simp [preOrder, parts]

theorem sizeOf_lt_of_mem_parts {element part : ElementModel} (h : part ∈ element.parts) :
    sizeOf part < sizeOf element := by
  cases element with
  | assignment _ _ _ terminal =>
    rw [List.mem_singleton.mp h]
    simp only [assignment.sizeOf_spec]
    omega
  | group _ elements | alternatives _ elements | unorderedGroup _ elements =>
    rw [parts] at h
    have hlt := List.sizeOf_lt_of_mem h
    simp only [group.sizeOf_spec, alternatives.sizeOf_spec, unorderedGroup.sizeOf_spec]
    omega
  | crossReference _ _ terminal =>
    rw [Option.mem_toList.mp h]
    simp only [crossReference.sizeOf_spec, Option.some.sizeOf_spec]
    omega
  | keyword _ _ | ruleCall _ _ | action _ _ => exact absurd h List.not_mem_nil

/-- The elements in pre-order are those that occur at any depth. -/
theorem mem_preOrder_iff {element sought : ElementModel} :
    sought ∈ element.preOrder ↔ element.Contains sought := by
  constructor
  · intro hmem
    rw [preOrder_eq, List.mem_cons, List.mem_flatMap] at hmem
    rcases hmem with rfl | ⟨part, hpart, hmem⟩
    · exact .self sought
    · exact .inside hpart (mem_preOrder_iff.mp hmem)
  · intro hcontains
    induction hcontains with
    | self element =>
      rw [preOrder_eq]
      exact List.mem_cons_self
    | inside hpart _ ih =>
      rw [preOrder_eq]
      exact List.mem_cons_of_mem _ (List.mem_flatMap.mpr ⟨_, hpart, ih⟩)
termination_by element
decreasing_by exact sizeOf_lt_of_mem_parts hpart

theorem mem_calledNames_iff {element : ElementModel} {name : String} :
    name ∈ element.calledNames ↔ element.Calls name := by
  rw [calledNames, List.mem_filterMap]
  constructor
  · rintro ⟨sought, hmem, hcalled⟩
    cases sought with
    | ruleCall cardinality rule =>
      cases hcalled
      exact ⟨cardinality, mem_preOrder_iff.mp hmem⟩
    | _ => cases hcalled
  · rintro ⟨cardinality, hcontains⟩
    exact ⟨_, mem_preOrder_iff.mpr hcontains, rfl⟩

end ElementModel

/-! ## Calls that lead nowhere -/

/-- The problems of a rule that calls names, given the rules that names stand for. -/
def callProblems (find? : String → Option RuleHandle) (rule : String) (names : List String) : List RuleProblem :=
  (names.filter fun called => (find? called).isNone).map (RuleProblem.unknownRule rule)

theorem callProblems_append (find? : String → Option RuleHandle) (rule : String) (names others : List String) :
    callProblems find? rule (names ++ others) =
      callProblems find? rule names ++ callProblems find? rule others := by
  rw [callProblems, List.filter_append, List.map_append]
  rfl

namespace NameTable

variable {table : NameTable}

theorem resolveCall_yields (table : NameTable) (rule called : String) :
    Yields (table.resolveCall rule called) (table.find? called) (callProblems table.find? rule [called]) := by
  rw [resolveCall, callProblems, List.filter_cons, List.filter_nil]
  cases table.find? called with
  | some handle => exact .pure (some handle)
  | none => exact (Yields.report (.unknownRule rule called)).map fun _ => none

mutual
theorem resolve_yields (table : NameTable) (rule : String) (element : ElementModel) :
    Yields (table.resolve rule element) (element.resolve table.find?)
      (callProblems table.find? rule element.calledNames) := by
  cases element with
  | keyword _ value => exact .pure _
  | ruleCall _ called => exact (resolveCall_yields table rule called).map Element.ruleCall
  | assignment _ feature _ terminal => exact (resolve_yields table rule terminal).map (Element.assignment feature)
  | group _ elements => exact (resolveList_yields table rule elements).map Element.group
  | alternatives _ elements => exact (resolveList_yields table rule elements).map Element.alternatives
  | unorderedGroup _ elements => exact (resolveList_yields table rule elements).map Element.unorderedGroup
  | crossReference _ _ terminal =>
    exact (resolveOption_yields table rule terminal).map Element.crossReference
  | action _ _ => exact .pure _

theorem resolveList_yields (table : NameTable) (rule : String) (elements : List ElementModel) :
    Yields (table.resolveList rule elements) (ElementModel.resolveList table.find? elements)
      (callProblems table.find? rule
        ((ElementModel.preOrderList elements).filterMap ElementModel.called?)) := by
  cases elements with
  | nil => exact .pure []
  | cons element rest =>
    have hfirst := resolve_yields table rule element
    have hrest := resolveList_yields table rule rest
    rw [ElementModel.preOrderList, List.filterMap_append, callProblems_append]
    exact hfirst.bind (hrest.map (element.resolve table.find? :: ·))

theorem resolveOption_yields (table : NameTable) (rule : String) (element : Option ElementModel) :
    Yields (table.resolveOption rule element) (ElementModel.resolveOption table.find? element)
      (callProblems table.find? rule
        ((ElementModel.preOrderOption element).filterMap ElementModel.called?)) := by
  cases element with
  | none => exact .pure none
  | some element => exact (resolve_yields table rule element).map some
end

end NameTable

/-! ## Names that are taken -/

/-- The first of some rules that has a name. -/
def firstNamed (rules : List RuleModel) (name : String) : Option RuleHandle :=
  (rules.findIdx? fun rule => rule.name == name).map RuleHandle.mk

/-- The rules whose name an earlier rule has. -/
def repeatedRules (rules : List RuleModel) : List RuleModel :=
  (rules.zipIdx.filter fun (rule, index) =>
    (rules.take index).any fun earlier => earlier.name == rule.name).map Prod.fst

section

variable {earlier : List RuleModel} {rule : RuleModel} {name : String}

theorem firstNamed_concat (earlier : List RuleModel) (rule : RuleModel) (name : String) :
    firstNamed (earlier ++ [rule]) name =
      (firstNamed earlier name).or (if rule.name == name then some ⟨earlier.length⟩ else none) := by
  rw [firstNamed, firstNamed, List.findIdx?_append, List.findIdx?_singleton, Option.map_or]
  split <;> simp

theorem isSome_firstNamed (rules : List RuleModel) (name : String) :
    (firstNamed rules name).isSome = rules.any fun rule => rule.name == name := by
  rw [firstNamed, Option.isSome_map, List.findIdx?_isSome]

theorem repeatedRules_concat (earlier : List RuleModel) (rule : RuleModel) :
    repeatedRules (earlier ++ [rule]) =
      repeatedRules earlier ++ if (firstNamed earlier rule.name).isSome then [rule] else [] := by
  have hearlier : earlier.zipIdx.filter (fun (other, index) =>
      ((earlier ++ [rule]).take index).any fun before => before.name == other.name) =
      earlier.zipIdx.filter fun (other, index) =>
        (earlier.take index).any fun before => before.name == other.name := by
    refine List.filter_congr fun (other, index) hitem => ?_
    have hlt : index < earlier.length := List.snd_lt_of_mem_zipIdx hitem
    dsimp only
    rw [List.take_append_of_le_length (Nat.le_of_lt hlt)]
  rw [repeatedRules, List.zipIdx_append, List.filter_append, hearlier, List.map_append, isSome_firstNamed]
  simp only [List.zipIdx_singleton, Nat.zero_add, List.filter_cons, List.filter_nil, List.take_left]
  split <;> rfl

end

namespace NameTable

variable {table : NameTable} {earlier : List RuleModel}

/-- A name that is taken is reported, and the table knows as before the first rule of each name. -/
theorem enter_yields (h : table.find? = firstNamed earlier) (rule : RuleModel) : ∃ next : NameTable,
    Yields (table.enter rule ⟨earlier.length⟩) next
      ((if (firstNamed earlier rule.name).isSome then [rule] else []).map (RuleProblem.duplicateName ·.name)) ∧
    next.find? = firstNamed (earlier ++ [rule]) := by
  rw [enter, h]
  cases hfirst : firstNamed earlier rule.name with
  | some handle =>
    refine ⟨table, (Yields.report _).map fun _ => table, ?_⟩
    funext name
    rw [h, firstNamed_concat]
    by_cases hname : rule.name == name
    · rw [← beq_iff_eq.mp hname, hfirst, Option.some_or]
    · rw [if_neg hname, Option.or_none]
  | none =>
    refine ⟨_, .pure _, ?_⟩
    funext name
    rw [firstNamed_concat, ← h, find?, List.lookup_cons, BEq.comm]
    cases hname : rule.name == name with
    | true =>
      rw [← beq_iff_eq.mp hname, h, hfirst]
      rfl
    | false => exact (Option.or_none).symm

theorem ofRules_concat (earlier : List RuleModel) (rule : RuleModel) :
    ofRules (earlier ++ [rule]) = ofRules earlier >>= fun table => table.enter rule ⟨earlier.length⟩ := by
  rw [ofRules, List.zipIdx_append, List.foldlM_append]
  simp only [List.zipIdx_singleton, Nat.zero_add, List.foldlM_cons, List.foldlM_nil, bind_pure]
  rfl

/-- The first pass knows the first rule of each name, and reports all other rules of the name. -/
theorem ofRules_yields (rules : List RuleModel) : ∃ table : NameTable,
    Yields (ofRules rules) table ((repeatedRules rules).map (RuleProblem.duplicateName ·.name)) ∧
    table.find? = firstNamed rules := by
  induction rules using List.reverseRecOn with
  | nil => exact ⟨{}, .pure _, rfl⟩
  | append_singleton earlier rule ih =>
    obtain ⟨table, hearlier, hfind⟩ := ih
    obtain ⟨next, hrule, hnext⟩ := enter_yields hfind rule
    refine ⟨next, ?_, hnext⟩
    rw [ofRules_concat, repeatedRules_concat, List.map_append]
    exact hearlier.bind hrule

/-! ## All rules -/

/-- The problems of the calls in a rule, given the rules that names stand for. -/
def ruleProblems (find? : String → Option RuleHandle) : RuleModel → List RuleProblem
  | .parser rule => callProblems find? rule.name rule.definition.calledNames
  | .terminal _ => []

theorem resolveRule_yields {model : GrammarModel} (h : table.find? = model.lookup) (rule : RuleModel) :
    Yields (table.resolveRule rule) (model.resolveRule rule) (ruleProblems model.lookup rule) := by
  cases rule with
  | parser rule =>
    let resolved (element : Element) : Rule := ⟨rule.name, none, rule.entry, false, false, .parser element⟩
    have helement := resolve_yields table rule.name rule.definition
    rw [h] at helement
    exact helement.map resolved
  | terminal rule => exact .pure _

end NameTable

namespace GrammarModel

/-- The two passes make the grammar of the model, with a table that knows the first rule of each name, and report
what there is to report in their order. -/
theorem exists_load_eq (model : GrammarModel) : ∃ names : NameTable, names.find? = model.lookup ∧
    ∀ diagnostics, model.load diagnostics = (⟨model.toGrammar, names⟩, diagnostics.reportAll
      ((repeatedRules model.rules).map (RuleProblem.duplicateName ·.name) ++
        model.rules.flatMap (NameTable.ruleProblems model.lookup))) := by
  obtain ⟨names, hnames, hfind⟩ := NameTable.ofRules_yields model.rules
  have hrules : Yields (model.rules.mapM names.resolveRule) (model.rules.map model.resolveRule)
      (model.rules.flatMap (NameTable.ruleProblems model.lookup)) :=
    .mapM fun rule _ => NameTable.resolveRule_yields hfind rule
  refine ⟨names, hfind, ?_⟩
  exact hnames.bind (hrules.map fun rules => (⟨⟨rules⟩, names⟩ : NamedGrammar))

end GrammarModel

/-! ## The problems of a grammar -/

def RuleModel.parser? : RuleModel → Option ParserRuleModel
  | parser rule => some rule
  | terminal _ => none

namespace GrammarModel

variable {model : GrammarModel}

def parsers (model : GrammarModel) : List ParserRuleModel := model.rules.filterMap RuleModel.parser?

/-- The calls in a parser rule of names that no rule has, in pre-order. -/
def unknownCalls (model : GrammarModel) (rule : ParserRuleModel) : List String :=
  rule.definition.calledNames.filter fun name => !model.rules.any fun other => other.name == name

theorem mem_unknownCalls_iff {rule : ParserRuleModel} {name : String} :
    name ∈ model.unknownCalls rule ↔
      rule.definition.Calls name ∧ ∀ other ∈ model.rules, other.name ≠ name := by
  rw [unknownCalls, List.mem_filter, ElementModel.mem_calledNames_iff]
  simp

theorem callProblems_eq (rule : ParserRuleModel) :
    callProblems model.lookup rule.name rule.definition.calledNames =
      (model.unknownCalls rule).map (RuleProblem.unknownRule rule.name) := by
  have hnone : ∀ name, (model.lookup name).isNone = !model.rules.any fun other => other.name == name := by
    intro name
    rw [← isSome_firstNamed, ← Option.not_isSome]
    rfl
  rw [callProblems, unknownCalls]
  simp only [hnone]

theorem flatMap_ruleProblems (model : GrammarModel) :
    model.rules.flatMap (NameTable.ruleProblems model.lookup) =
      model.parsers.flatMap fun rule => (model.unknownCalls rule).map (RuleProblem.unknownRule rule.name) := by
  rw [parsers, List.filterMap_eq_flatMap_toList, List.flatMap_assoc]
  refine List.flatMap_congr fun rule _ => ?_
  cases rule with
  | parser rule =>
    rw [NameTable.ruleProblems, callProblems_eq, RuleModel.parser?, Option.toList_some, List.flatMap_singleton]
  | terminal rule => rfl

/-- What making a grammar adds to the problems that were collected before. -/
structure ReportsExactly (model : GrammarModel) : Prop where
  /-- First the rules whose name an earlier rule has, then the unknown calls of each parser rule. -/
  added : ∀ diagnostics, (model.load diagnostics).2.problems = diagnostics.problems ++
    (((repeatedRules model.rules).map fun rule => ⟨rule.name, "Duplicate rule name"⟩) ++
      model.parsers.flatMap fun rule =>
        (model.unknownCalls rule).map fun called => ⟨rule.name, "Unknown rule `" ++ called ++ "`"⟩)
  /-- A call is unknown at whatever depth it stands, if no rule has its name. -/
  unknown_iff : ∀ rule name, name ∈ model.unknownCalls rule ↔
    rule.definition.Calls name ∧ ∀ other ∈ model.rules, other.name ≠ name

/-- **The problems of a grammar are reported in order, each of them once, and no others**, after those that were
collected before. -/
theorem load_reports_exactly (model : GrammarModel) : model.ReportsExactly where
  added diagnostics := by
    obtain ⟨names, -, hload⟩ := model.exists_load_eq
    rw [hload, flatMap_ruleProblems]
    rfl
  unknown_iff _ _ := mem_unknownCalls_iff

/-- A rule whose name is taken is reported before the calls of the first rule, and calls are reported one by one
where they stand. -/
example : ((load ⟨"Test",
    [.parser ⟨"A", true, .group none [.ruleCall none "X", .assignment none "y" "=" (.ruleCall none "Y")]⟩,
      .parser ⟨"A", false, .crossReference none "A" (some (.ruleCall none "X"))⟩]⟩ {}).2.problems.map
        RuleProblem.text) =
      ["A: Duplicate rule name", "A: Unknown rule `X`", "A: Unknown rule `Y`", "A: Unknown rule `X`"] := by
  decide

end GrammarModel

end EditorBridge
