import EditorBridge.Proofs.Grammar.Collation
import EditorBridge.Proofs.Grammar.Reachability
/-!
Reachability by names.  A call leads to a place in the list of rules, and places change when rules are moved.
Where the rules have different names a place stands for a name: the literals of a grammar are those of the
parser rules that are derived, name by name, from where derivations start
(`GrammarModel.mem_literals_iff_derives`).  Nothing in that depends on the order of the rules.
-/

set_option autoImplicit false

namespace EditorBridge

namespace ElementModel

/-! ## What occurs in an element -/

/-- The elements directly inside an element. -/
def parts : ElementModel → List ElementModel
  | assignment _ _ _ terminal => [terminal]
  | group _ elements | alternatives _ elements | unorderedGroup _ elements => elements
  | crossReference _ _ terminal => terminal.toList
  | keyword _ _ | ruleCall _ _ | action _ _ => []

/-- Occurrence at any depth, the element itself included. -/
inductive Contains : ElementModel → ElementModel → Prop
  | self (element : ElementModel) : Contains element element
  | inside {element part sought : ElementModel} (h : part ∈ element.parts) (hpart : Contains part sought) :
      Contains element sought

/-- A keyword literal occurs in an element. -/
def Spells (element : ElementModel) (literal : String) : Prop :=
  ∃ cardinality, element.Contains (.keyword cardinality literal)

/-- A rule is called in an element by its name. -/
def Calls (element : ElementModel) (name : String) : Prop :=
  ∃ cardinality, element.Contains (.ruleCall cardinality name)

variable {lookup : String → Option RuleHandle} {element : ElementModel}

theorem resolveList_eq_map (lookup : String → Option RuleHandle) (elements : List ElementModel) :
    resolveList lookup elements = elements.map (resolve lookup) := by
  induction elements with
  | nil => rfl
  | cons element rest ih => rw [resolveList, ih, List.map_cons]

theorem parts_resolve (lookup : String → Option RuleHandle) (element : ElementModel) :
    (element.resolve lookup).parts = element.parts.map (resolve lookup) := by
  cases element with
  | group _ elements | alternatives _ elements | unorderedGroup _ elements =>
    exact resolveList_eq_map lookup elements
  | crossReference _ _ terminal => cases terminal <;> rfl
  | _ => rfl

/-- Looking up names changes what an element consists of one by one. -/
theorem contains_resolve_iff {sought : Element} : (element.resolve lookup).Contains sought ↔
    ∃ part, element.Contains part ∧ part.resolve lookup = sought := by
  constructor
  · intro hcontains
    generalize hresolved : element.resolve lookup = resolved at hcontains
    induction hcontains generalizing element with
    | self resolved => exact ⟨element, .self element, hresolved⟩
    | inside hpart _ ih =>
      rw [← hresolved, parts_resolve] at hpart
      obtain ⟨part, hmem, hsame⟩ := List.mem_map.mp hpart
      obtain ⟨inner, hinner, hsought⟩ := ih hsame
      exact ⟨inner, .inside hmem hinner, hsought⟩
  · rintro ⟨part, hcontains, rfl⟩
    induction hcontains with
    | self element => exact .self _
    | inside hpart _ ih =>
      refine .inside ?_ ih
      rw [parts_resolve]
      exact List.mem_map_of_mem hpart

theorem contains_keyword_iff {literal : String} :
    (element.resolve lookup).Contains (.keyword literal) ↔ element.Spells literal := by
  rw [contains_resolve_iff]
  constructor
  · rintro ⟨part, hcontains, hpart⟩
    cases part with
    | keyword cardinality value =>
      cases hpart
      exact ⟨cardinality, hcontains⟩
    | _ => cases hpart
  · rintro ⟨cardinality, hcontains⟩
    exact ⟨_, hcontains, rfl⟩

theorem contains_ruleCall_iff {handle : RuleHandle} :
    (element.resolve lookup).Contains (.ruleCall (some handle)) ↔
      ∃ name, element.Calls name ∧ lookup name = some handle := by
  rw [contains_resolve_iff]
  constructor
  · rintro ⟨part, hcontains, hpart⟩
    cases part with
    | ruleCall cardinality name => exact ⟨name, ⟨cardinality, hcontains⟩, Element.ruleCall.inj hpart⟩
    | _ => cases hpart
  · rintro ⟨name, ⟨cardinality, hcontains⟩, hlookup⟩
    exact ⟨_, hcontains, congrArg Element.ruleCall hlookup⟩

end ElementModel

theorem nodup_eraseDups (texts : List String) : texts.eraseDups.Nodup := by
  cases texts with
  | nil => exact List.nodup_nil
  | cons text rest =>
    have hlength := List.length_filter_le (fun other => !other == text) rest
    rw [List.eraseDups_cons, List.nodup_cons, List.mem_eraseDups]
    refine ⟨?_, nodup_eraseDups _⟩
    simp
termination_by texts.length

namespace GrammarModel

variable {model : GrammarModel} {handle : RuleHandle} {rule : ParserRuleModel}

/-! ## Places and names -/

theorem rule?_toGrammar (model : GrammarModel) (handle : RuleHandle) :
    model.toGrammar.rule? handle = model.rules[handle.index]?.map model.resolveRule := by
  rw [Grammar.rule?, toGrammar, List.getElem?_map]

theorem parses_toGrammar_iff {element : Element} : model.toGrammar.Parses handle element ↔
    ∃ rule, model.rules[handle.index]? = some (.parser rule) ∧
      rule.definition.resolve model.lookup = element := by
  rw [Grammar.Parses, rule?_toGrammar]
  cases model.rules[handle.index]? with
  | none => simp
  | some held => cases held <;> simp [resolveRule]

theorem marked_toGrammar_iff : model.toGrammar.Marked handle ↔
    ∃ rule, model.rules[handle.index]? = some (.parser rule) ∧ rule.entry = true := by
  rw [Grammar.Marked, rule?_toGrammar]
  cases model.rules[handle.index]? with
  | none => simp
  | some held => cases held <;> simp [resolveRule]

theorem exists_marked_iff : (∃ handle, model.toGrammar.Marked handle) ↔
    ∃ rule, .parser rule ∈ model.rules ∧ rule.entry = true := by
  constructor
  · rintro ⟨handle, hmarked⟩
    obtain ⟨rule, hrule, hentry⟩ := marked_toGrammar_iff.mp hmarked
    exact ⟨rule, List.mem_of_getElem? hrule, hentry⟩
  · rintro ⟨rule, hrule, hentry⟩
    obtain ⟨index, hindex⟩ := List.mem_iff_getElem?.mp hrule
    exact ⟨⟨index⟩, marked_toGrammar_iff.mpr ⟨rule, hindex, hentry⟩⟩

theorem name_of_lookup {name : String} (h : model.lookup name = some handle) :
    ∃ held, model.rules[handle.index]? = some held ∧ held.name = name := by
  obtain ⟨index, hindex, rfl⟩ := Option.map_eq_some_iff.mp h
  obtain ⟨hlt, hname, -⟩ := List.findIdx?_eq_some_iff_getElem.mp hindex
  exact ⟨_, List.getElem?_eq_getElem hlt, beq_iff_eq.mp hname⟩

/-- A rule whose name no other rule has is the one that is found by its name. -/
theorem lookup_name (hnames : (model.rules.map RuleModel.name).Nodup) {held : RuleModel}
    (h : model.rules[handle.index]? = some held) : model.lookup held.name = some handle := by
  obtain ⟨hlt, hheld⟩ := List.getElem?_eq_some_iff.mp h
  have hfirst : model.rules.findIdx? (fun other => other.name == held.name) = some handle.index := by
    refine List.findIdx?_eq_some_iff_getElem.mpr ⟨hlt, ?_, ?_⟩
    · rw [hheld]
      exact beq_self_eq_true held.name
    · intro earlier hearlier hsame
      have hother := List.pairwise_iff_getElem.mp hnames earlier handle.index
        (by rw [List.length_map]; omega) (by rw [List.length_map]; exact hlt) hearlier
      rw [List.getElem_map, List.getElem_map, hheld] at hother
      exact hother (beq_iff_eq.mp hsame)
  rw [lookup, hfirst]
  rfl

/-! ## Derived rules -/

/-- A parser rule is derived by calls of names: it is marked as entry, or no parser rule is, or a derived
rule calls its name. -/
inductive Derives (model : GrammarModel) : ParserRuleModel → Prop
  | start {rule : ParserRuleModel} (hrule : .parser rule ∈ model.rules)
      (hstart : rule.entry = true ∨ ¬ ∃ other, .parser other ∈ model.rules ∧ other.entry = true) :
      Derives model rule
  | call {caller rule : ParserRuleModel} (hcaller : Derives model caller) (hrule : .parser rule ∈ model.rules)
      (hcall : caller.definition.Calls rule.name) : Derives model rule

theorem starts_toGrammar_iff (h : model.rules[handle.index]? = some (.parser rule)) :
    model.toGrammar.Starts handle ↔
      rule.entry = true ∨ ¬ ∃ other, .parser other ∈ model.rules ∧ other.entry = true := by
  have hmarked : model.toGrammar.Marked handle ↔ rule.entry = true := by
    rw [marked_toGrammar_iff, h]
    simp
  have hparses : ∃ element, model.toGrammar.Parses handle element :=
    ⟨_, parses_toGrammar_iff.mpr ⟨rule, h, rfl⟩⟩
  rw [Grammar.Starts, hmarked, ← exists_marked_iff, not_exists, and_iff_left hparses]

theorem derives_of_reaches (hreaches : model.toGrammar.Reaches handle)
    (h : model.rules[handle.index]? = some (.parser rule)) : model.Derives rule := by
  induction hreaches generalizing rule with
  | start hstarts => exact .start (List.mem_of_getElem? h) ((starts_toGrammar_iff h).mp hstarts)
  | call _ hparses hcall ih =>
    obtain ⟨caller, hcaller, rfl⟩ := parses_toGrammar_iff.mp hparses
    obtain ⟨name, hname, hlookup⟩ := ElementModel.contains_ruleCall_iff.mp hcall
    -- The name leads to the place of the rule, so it is the name of the rule.
    obtain ⟨held, hheld, rfl⟩ := name_of_lookup hlookup
    rw [h] at hheld
    cases hheld
    exact .call (ih hcaller) (List.mem_of_getElem? h) hname

/-- With different names no call misses the rule that is meant. -/
theorem reaches_of_derives (hnames : (model.rules.map RuleModel.name).Nodup) (h : model.Derives rule) :
    ∃ handle, model.rules[handle.index]? = some (.parser rule) ∧ model.toGrammar.Reaches handle := by
  induction h with
  | start hrule hstart =>
    obtain ⟨index, hindex⟩ := List.mem_iff_getElem?.mp hrule
    exact ⟨⟨index⟩, hindex, .start ((starts_toGrammar_iff hindex).mpr hstart)⟩
  | @call caller rule _ hrule hcall ih =>
    obtain ⟨handle, hcaller, hreaches⟩ := ih
    obtain ⟨index, hindex⟩ := List.mem_iff_getElem?.mp hrule
    have hlookup : model.lookup rule.name = some ⟨index⟩ := lookup_name hnames hindex
    have hparses := parses_toGrammar_iff.mpr ⟨caller, hcaller, rfl⟩
    exact ⟨⟨index⟩, hindex,
      .call hreaches hparses (ElementModel.contains_ruleCall_iff.mpr ⟨_, hcall, hlookup⟩)⟩

theorem mem_literals_iff_derives (hnames : (model.rules.map RuleModel.name).Nodup) {literal : String} :
    literal ∈ model.toGrammar.literals ↔ ∃ rule, model.Derives rule ∧ rule.definition.Spells literal := by
  rw [Grammar.mem_literals_iff]
  constructor
  · rintro ⟨handle, element, hreaches, hparses, hcontains⟩
    obtain ⟨rule, hrule, rfl⟩ := parses_toGrammar_iff.mp hparses
    exact ⟨rule, derives_of_reaches hreaches hrule, ElementModel.contains_keyword_iff.mp hcontains⟩
  · rintro ⟨rule, hderives, hspells⟩
    obtain ⟨handle, hrule, hreaches⟩ := reaches_of_derives hnames hderives
    exact ⟨handle, _, hreaches, parses_toGrammar_iff.mpr ⟨rule, hrule, rfl⟩,
      ElementModel.contains_keyword_iff.mpr hspells⟩

/-! ## Moving rules -/

variable {other : GrammarModel}

/-- Which rules are derived depends on which rules there are, not on where they stand. -/
theorem Derives.of_perm (hperm : model.rules.Perm other.rules) (h : model.Derives rule) :
    other.Derives rule := by
  induction h with
  | start hrule hstart =>
    simp only [hperm.mem_iff] at hrule hstart
    exact .start hrule hstart
  | call _ hrule hcall ih => exact .call ih (hperm.mem_iff.mp hrule) hcall

theorem derives_iff_of_perm (hperm : model.rules.Perm other.rules) :
    model.Derives rule ↔ other.Derives rule :=
  ⟨.of_perm hperm, .of_perm hperm.symm⟩

theorem literals_perm (hperm : model.rules.Perm other.rules)
    (hnames : (model.rules.map RuleModel.name).Nodup) :
    model.toGrammar.literals.Perm other.toGrammar.literals := by
  have hothers : (other.rules.map RuleModel.name).Nodup :=
    (hperm.map RuleModel.name).nodup_iff.mp hnames
  refine (List.perm_ext_iff_of_nodup (nodup_eraseDups _) (nodup_eraseDups _)).mpr ?_
  intro literal
  have hliteral : literal ∈ model.toGrammar.literals ↔ literal ∈ other.toGrammar.literals := by
    rw [mem_literals_iff_derives hnames, mem_literals_iff_derives hothers]
    simp only [derives_iff_of_perm hperm]
  exact hliteral

/-- The keywords of a grammar are the same wherever its rules stand. -/
theorem keywords_eq_of_perm (hperm : model.rules.Perm other.rules)
    (hnames : (model.rules.map RuleModel.name).Nodup) :
    model.toGrammar.keywords = other.toGrammar.keywords :=
  Keywords.ofLiterals_eq_of_perm (literals_perm hperm hnames)

end GrammarModel

end EditorBridge
