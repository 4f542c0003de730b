import EditorBridge.Proofs.Grammar.Elements
/-!
The search for reachable rules.  A rule that is due is opened unless it was opened before, and what it
calls becomes due (`Search.step`).  All that is due or opened is reached by calls from the starting
rules, all that an opened rule calls is due or opened, and each step uses up one starting rule or one
call: so the search ends, and the rules it opened are exactly those that are reached.
-/

set_option autoImplicit false

namespace EditorBridge

namespace Grammar

variable {grammar : Grammar}

/-! ## Rules that are reached -/

/-- The element of a parser rule, by the handle of the rule. -/
def Parses (grammar : Grammar) (handle : RuleHandle) (element : Element) : Prop :=
  ∃ rule, grammar.rule? handle = some rule ∧ rule.body = .parser element

/-- A parser rule is marked as entry. -/
def Marked (grammar : Grammar) (handle : RuleHandle) : Prop :=
  ∃ rule element, grammar.rule? handle = some rule ∧ rule.body = .parser element ∧ rule.entry = true

/-- A parser rule is where derivations start: it is marked as entry, or no rule is. -/
def Starts (grammar : Grammar) (handle : RuleHandle) : Prop :=
  grammar.Marked handle ∨
    (∀ other, ¬ grammar.Marked other) ∧ ∃ element, grammar.Parses handle element

/-- A rule is reached from where derivations start, by calls in parser rules. -/
inductive Reaches (grammar : Grammar) : RuleHandle → Prop
  | start {handle : RuleHandle} (h : grammar.Starts handle) : Reaches grammar handle
  | call {caller handle : RuleHandle} {element : Element} (hcaller : Reaches grammar caller)
      (hparses : grammar.Parses caller element)
      (hcall : element.Contains (.ruleCall (some handle))) : Reaches grammar handle

theorem mem_parserRules_iff {handle : RuleHandle} {rule : Rule} {element : Element} :
    (handle, rule, element) ∈ grammar.parserRules ↔
      grammar.rule? handle = some rule ∧ rule.body = .parser element := by
  simp only [parserRules, handled, List.mem_filterMap, List.mem_map, Prod.exists,
    List.mk_mem_zipIdx_iff_getElem?, rule?]
  constructor
  · rintro ⟨found, held, ⟨item, index, hitem, hsame⟩, hbody⟩
    cases hsame
    cases hparser : held.body with
    | parser part =>
      rw [hparser] at hbody
      cases hbody
      exact ⟨hitem, hparser⟩
    | terminal definition =>
      rw [hparser] at hbody
      cases hbody
  · rintro ⟨hrule, hbody⟩
    exact ⟨handle, rule, ⟨rule, handle.index, hrule, rfl⟩, by rw [hbody]⟩

theorem element?_eq_some_iff {handle : RuleHandle} {element : Element} :
    grammar.element? handle = some element ↔ grammar.Parses handle element := by
  rw [element?, Parses]
  cases hrule : grammar.rule? handle with
  | none => simp
  | some rule => cases hbody : rule.body <;> simp [hbody]

theorem mem_callsOf_iff {caller handle : RuleHandle} :
    handle ∈ grammar.callsOf caller ↔
      ∃ element, grammar.Parses caller element ∧ element.Contains (.ruleCall (some handle)) := by
  rw [callsOf]
  cases helement : grammar.element? caller with
  | none =>
    have hnone : ∀ element, ¬ grammar.Parses caller element := by
      intro element hparses
      rw [← element?_eq_some_iff, helement] at hparses
      cases hparses
    simp [hnone]
  | some element =>
    rw [Option.map_some, Option.getD_some, Element.mem_calls_iff]
    constructor
    · intro hcall
      exact ⟨element, element?_eq_some_iff.mp helement, hcall⟩
    · rintro ⟨other, hparses, hcall⟩
      rw [← element?_eq_some_iff, helement] at hparses
      rw [Option.some.inj hparses]
      exact hcall

/-- The parser rules that are marked as entry. -/
def markedRules (grammar : Grammar) : List (RuleHandle × Rule × Element) :=
  grammar.parserRules.filter fun (_, rule, _) => rule.entry

theorem entryRules_eq (grammar : Grammar) : grammar.entryRules =
    (if grammar.markedRules.isEmpty then grammar.parserRules else grammar.markedRules).map Prod.fst :=
  rfl

theorem mem_map_fst_iff {handle : RuleHandle} {rules : List (RuleHandle × Rule × Element)} :
    handle ∈ rules.map Prod.fst ↔ ∃ rule element, (handle, rule, element) ∈ rules := by
  simp

theorem exists_mem_markedRules_iff {handle : RuleHandle} :
    (∃ rule element, (handle, rule, element) ∈ grammar.markedRules) ↔ grammar.Marked handle := by
  simp only [markedRules, List.mem_filter, mem_parserRules_iff, and_assoc, Marked]

theorem mem_entryRules_iff {handle : RuleHandle} :
    handle ∈ grammar.entryRules ↔ grammar.Starts handle := by
  have hparses : (∃ rule element, (handle, rule, element) ∈ grammar.parserRules) ↔
      ∃ element, grammar.Parses handle element := by
    simp only [mem_parserRules_iff, Parses]
    exact exists_comm
  rw [entryRules_eq, Starts]
  cases hentries : grammar.markedRules with
  | nil =>
    have hnone : ∀ other, ¬ grammar.Marked other := by
      intro other hother
      obtain ⟨_, _, hmem⟩ := exists_mem_markedRules_iff.mpr hother
      rw [hentries] at hmem
      exact absurd hmem List.not_mem_nil
    rw [List.isEmpty_nil, if_pos rfl, mem_map_fst_iff, hparses]
    simp [hnone]
  | cons first rest =>
    have hfirst : grammar.Marked first.1 := by
      refine exists_mem_markedRules_iff.mp ⟨first.2.1, first.2.2, ?_⟩
      rw [hentries]
      exact List.mem_cons_self
    have hsome : ¬ ∀ other, ¬ grammar.Marked other := fun hnone => hnone first.1 hfirst
    rw [List.isEmpty_cons, if_neg Bool.false_ne_true, mem_map_fst_iff, ← hentries,
      exists_mem_markedRules_iff]
    simp [hsome]

/-! ## The search step by step -/

/-- A search in progress: the rules that are due, and those that were opened. -/
structure Search where
  due : List RuleHandle
  opened : List RuleHandle

namespace Search

/-- The search that starts with the entry rules. -/
def start (grammar : Grammar) : Search := ⟨grammar.entryRules, []⟩

/-- Takes the next rule that is due; there is no step if none is. -/
def step? (grammar : Grammar) : Search → Option Search
  | ⟨[], _⟩ => none
  | ⟨handle :: due, opened⟩ =>
    if opened.contains handle then some ⟨due, opened⟩
    else some ⟨grammar.callsOf handle ++ due, handle :: opened⟩

/-- A step passes over a rule that was opened before, or opens one and makes the rules it calls due. -/
theorem step_cases {search next : Search} (h : search.step? grammar = some next) :
    ∃ handle due, search.due = handle :: due ∧
      (handle ∈ search.opened ∧ next = ⟨due, search.opened⟩ ∨
        handle ∉ search.opened ∧ next = ⟨grammar.callsOf handle ++ due, handle :: search.opened⟩) := by
  obtain ⟨due, opened⟩ := search
  cases due with
  | nil => cases h
  | cons handle due =>
    refine ⟨handle, due, rfl, ?_⟩
    rw [step?] at h
    by_cases hopened : handle ∈ opened
    · rw [if_pos (List.contains_iff_mem.mpr hopened)] at h
      exact Or.inl ⟨hopened, (Option.some.inj h).symm⟩
    · rw [if_neg fun hcontains => hopened (List.contains_iff_mem.mp hcontains)] at h
      exact Or.inr ⟨hopened, (Option.some.inj h).symm⟩

/-- The search after at most so many steps. -/
def run (grammar : Grammar) : Nat → Search → Search
  | 0, search => search
  | steps + 1, search =>
    match search.step? grammar with
    | none => search
    | some next => run grammar steps next

theorem search_eq_run (steps : Nat) (search : Search) :
    grammar.search steps search.due search.opened = (search.run grammar steps).opened := by
  induction steps generalizing search with
  | zero => rfl
  | succ steps ih =>
    obtain ⟨due, opened⟩ := search
    cases due with
    | nil => rfl
    | cons handle due =>
      rw [run, step?, Grammar.search]
      by_cases hopened : opened.contains handle = true
      · rw [if_pos hopened, if_pos hopened]
        exact ih ⟨due, opened⟩
      · rw [if_neg hopened, if_neg hopened]
        exact ih ⟨grammar.callsOf handle ++ due, handle :: opened⟩

/-- What all rules have in common that are due or opened, and what opened ones leave due. -/
structure Invariant (grammar : Grammar) (search : Search) : Prop where
  reached : ∀ handle, handle ∈ search.due ∨ handle ∈ search.opened → grammar.Reaches handle
  starts : ∀ handle, grammar.Starts handle → handle ∈ search.due ∨ handle ∈ search.opened
  closed : ∀ caller ∈ search.opened, ∀ handle ∈ grammar.callsOf caller,
    handle ∈ search.due ∨ handle ∈ search.opened

theorem start_invariant (grammar : Grammar) : (start grammar).Invariant grammar where
  reached := by
    rintro handle (hdue | hopened)
    · exact .start (mem_entryRules_iff.mp hdue)
    · exact absurd hopened List.not_mem_nil
  starts handle h := Or.inl (mem_entryRules_iff.mpr h)
  closed _ h := absurd h List.not_mem_nil

theorem Invariant.step {search next : Search} (h : search.Invariant grammar)
    (hstep : search.step? grammar = some next) : next.Invariant grammar := by
  obtain ⟨handle, due, hdue, hnext⟩ := step_cases hstep
  obtain ⟨hreached, hstarts, hclosed⟩ := h
  rw [hdue] at hreached hstarts hclosed
  rcases hnext with ⟨hopened, rfl⟩ | ⟨-, rfl⟩
  · -- The rule leaves the due ones, but it is among the opened ones already.
    have hkept : ∀ other, other ∈ handle :: due ∨ other ∈ search.opened →
        other ∈ due ∨ other ∈ search.opened := by
      rintro other (hother | hother)
      · rcases List.mem_cons.mp hother with rfl | hother
        · exact Or.inr hopened
        · exact Or.inl hother
      · exact Or.inr hother
    exact ⟨fun other hother => hreached other (hother.imp_left (List.mem_cons_of_mem _)),
      fun other hother => hkept other (hstarts other hother),
      fun caller hcaller other hother => hkept other (hclosed caller hcaller other hother)⟩
  · have hkept : ∀ other, other ∈ handle :: due ∨ other ∈ search.opened →
        other ∈ grammar.callsOf handle ++ due ∨ other ∈ handle :: search.opened := by
      rintro other (hother | hother)
      · rcases List.mem_cons.mp hother with rfl | hother
        · exact Or.inr List.mem_cons_self
        · exact Or.inl (List.mem_append_right _ hother)
      · exact Or.inr (List.mem_cons_of_mem _ hother)
    have hhandle : grammar.Reaches handle := hreached handle (Or.inl List.mem_cons_self)
    refine ⟨?_, fun other hother => hkept other (hstarts other hother), ?_⟩
    · rintro other (hother | hother)
      · rcases List.mem_append.mp hother with hcalled | hother
        · obtain ⟨element, hparses, hcall⟩ := mem_callsOf_iff.mp hcalled
          exact .call hhandle hparses hcall
        · exact hreached other (Or.inl (List.mem_cons_of_mem _ hother))
      · rcases List.mem_cons.mp hother with rfl | hother
        · exact hhandle
        · exact hreached other (Or.inr hother)
    · intro caller hcaller other hother
      rcases List.mem_cons.mp hcaller with rfl | hcaller
      · exact Or.inl (List.mem_append_left _ hother)
      · exact hkept other (hclosed caller hcaller other hother)

theorem Invariant.run {search : Search} (h : search.Invariant grammar) (steps : Nat) :
    (search.run grammar steps).Invariant grammar := by
  induction steps generalizing search with
  | zero => exact h
  | succ steps ih =>
    rw [Search.run]
    cases hstep : search.step? grammar with
    | none => exact h
    | some next => exact ih (h.step hstep)

/-- When no rule is due any more, the opened rules are those that are reached. -/
theorem Invariant.mem_opened_iff {search : Search} (h : search.Invariant grammar)
    (hended : search.due = []) {handle : RuleHandle} :
    handle ∈ search.opened ↔ grammar.Reaches handle := by
  have hopened : ∀ other, other ∈ search.due ∨ other ∈ search.opened → other ∈ search.opened := by
    rintro other (hdue | hopened)
    · rw [hended] at hdue
      exact absurd hdue List.not_mem_nil
    · exact hopened
  constructor
  · intro hmem
    exact h.reached handle (Or.inr hmem)
  · intro hreaches
    induction hreaches with
    | start hstarts => exact hopened _ (h.starts _ hstarts)
    | call _ hparses hcall ih =>
      exact hopened _ (h.closed _ ih _ (mem_callsOf_iff.mpr ⟨_, hparses, hcall⟩))

/-! ## The end of the search -/

/-- The number of calls in rules that were not opened. -/
def closedCalls (opened : List RuleHandle) : List (RuleHandle × Rule × Element) → Nat
  | [] => 0
  | (handle, _, element) :: rest =>
    (if handle ∈ opened then 0 else element.calls.length) + closedCalls opened rest

theorem closedCalls_cons_le (opened : List RuleHandle) (handle : RuleHandle)
    (rules : List (RuleHandle × Rule × Element)) :
    closedCalls (handle :: opened) rules ≤ closedCalls opened rules := by
  induction rules with
  | nil => exact Nat.le_refl _
  | cons first rest ih =>
    obtain ⟨other, rule, element⟩ := first
    rw [closedCalls, closedCalls]
    by_cases hopened : other ∈ opened
    · rw [if_pos hopened, if_pos (List.mem_cons_of_mem _ hopened)]
      omega
    · rw [if_neg hopened]
      split <;> omega

/-- Opening a rule takes its calls from those that are left. -/
theorem closedCalls_cons {opened : List RuleHandle} {handle : RuleHandle}
    (hclosed : handle ∉ opened) {rules : List (RuleHandle × Rule × Element)} {rule : Rule}
    {element : Element} (hmem : (handle, rule, element) ∈ rules) :
    closedCalls (handle :: opened) rules + element.calls.length ≤ closedCalls opened rules := by
  induction rules with
  | nil => exact absurd hmem List.not_mem_nil
  | cons first rest ih =>
    rcases List.mem_cons.mp hmem with rfl | hrest
    · have hle := closedCalls_cons_le opened handle rest
      rw [closedCalls, closedCalls, if_neg hclosed, if_pos List.mem_cons_self]
      omega
    · obtain ⟨other, held, part⟩ := first
      have hle := ih hrest
      rw [closedCalls, closedCalls]
      by_cases hopened : other ∈ opened
      · rw [if_pos hopened, if_pos (List.mem_cons_of_mem _ hopened)]
        omega
      · rw [if_neg hopened]
        split <;> omega

/-- An upper bound for the steps that are left. -/
def bound (grammar : Grammar) (search : Search) : Nat :=
  search.due.length + closedCalls search.opened grammar.parserRules

theorem bound_step {search next : Search} (hstep : search.step? grammar = some next) :
    next.bound grammar + 1 ≤ search.bound grammar := by
  obtain ⟨handle, due, hdue, hnext⟩ := step_cases hstep
  rcases hnext with ⟨-, rfl⟩ | ⟨hclosed, rfl⟩
  · simp only [bound, hdue, List.length_cons]
    omega
  · simp only [bound, hdue, List.length_append, List.length_cons]
    cases helement : grammar.element? handle with
    | none =>
      have hcalls : grammar.callsOf handle = [] := by rw [callsOf, helement]; rfl
      have hle := closedCalls_cons_le search.opened handle grammar.parserRules
      rw [hcalls, List.length_nil]
      omega
    | some element =>
      have hcalls : grammar.callsOf handle = element.calls := by rw [callsOf, helement]; rfl
      obtain ⟨rule, hrule, hbody⟩ := element?_eq_some_iff.mp helement
      -- The calls that become due are no longer among those of closed rules.
      have hle := closedCalls_cons hclosed (mem_parserRules_iff.mpr ⟨hrule, hbody⟩)
      rw [hcalls]
      omega

/-- No rule is due any more after as many steps as the bound says. -/
theorem run_ends {search : Search} {steps : Nat} (h : search.bound grammar ≤ steps) :
    (search.run grammar steps).due = [] := by
  induction steps generalizing search with
  | zero =>
    have hdue : search.due.length = 0 := by
      rw [bound] at h
      omega
    exact List.length_eq_zero_iff.mp hdue
  | succ steps ih =>
    rw [run]
    cases hstep : search.step? grammar with
    | none =>
      obtain ⟨due, opened⟩ := search
      cases due with
      | nil => rfl
      | cons handle due =>
        rw [step?] at hstep
        split at hstep <;> cases hstep
    | some next =>
      have hle := bound_step hstep
      exact ih (by omega)

end Search

theorem foldl_calls (rules : List (RuleHandle × Rule × Element)) (count : Nat) :
    rules.foldl (fun count (_, _, element) => count + element.calls.length) count =
      count + Search.closedCalls [] rules := by
  induction rules generalizing count with
  | nil => rfl
  | cons first rest ih =>
    obtain ⟨handle, rule, element⟩ := first
    simp only [List.foldl_cons, ih, Search.closedCalls, List.not_mem_nil, if_false]
    omega

theorem callCount_eq (grammar : Grammar) :
    grammar.callCount = Search.closedCalls [] grammar.parserRules := by
  have hfold := foldl_calls grammar.parserRules 0
  rw [callCount, hfold, Nat.zero_add]

/-- The steps that are allowed are enough for the whole search. -/
theorem bound_start_le (grammar : Grammar) :
    (Search.start grammar).bound grammar ≤ grammar.entryRules.length + grammar.callCount + 1 := by
  rw [callCount_eq]
  exact Nat.le_succ _

theorem reachable_eq_run (grammar : Grammar) :
    grammar.reachable = ((Search.start grammar).run grammar
      (grammar.entryRules.length + grammar.callCount + 1)).opened :=
  Search.search_eq_run _ (Search.start grammar)

theorem mem_reachable_iff {handle : RuleHandle} :
    handle ∈ grammar.reachable ↔ grammar.Reaches handle := by
  have hinvariant := (Search.start_invariant grammar).run
    (grammar.entryRules.length + grammar.callCount + 1)
  rw [reachable_eq_run]
  exact hinvariant.mem_opened_iff (Search.run_ends grammar.bound_start_le)

/-! ## The literals of a grammar -/

theorem mem_literals_iff {literal : String} :
    literal ∈ grammar.literals ↔ ∃ handle element, grammar.Reaches handle ∧
      grammar.Parses handle element ∧ element.Contains (.keyword literal) := by
  rw [literals, List.mem_eraseDups, List.mem_flatMap]
  constructor
  · rintro ⟨handle, hreachable, hliteral⟩
    cases helement : grammar.element? handle with
    | none =>
      rw [helement] at hliteral
      exact absurd hliteral List.not_mem_nil
    | some element =>
      rw [helement, Option.map_some, Option.getD_some] at hliteral
      exact ⟨handle, element, mem_reachable_iff.mp hreachable, element?_eq_some_iff.mp helement,
        Element.mem_keywords_iff.mp hliteral⟩
  · rintro ⟨handle, element, hreaches, hparses, hcontains⟩
    refine ⟨handle, mem_reachable_iff.mpr hreaches, ?_⟩
    rw [element?_eq_some_iff.mpr hparses, Option.map_some, Option.getD_some]
    exact Element.mem_keywords_iff.mpr hcontains

/-- The search for rules ends, and the literals that are collected are those of the rules reached. -/
structure LiteralsExact (grammar : Grammar) : Prop where
  /-- After some steps no rule is due, and the rules opened by then are the ones literals are taken
  from. -/
  ends : ∃ steps, ((Search.start grammar).run grammar steps).due = [] ∧
    ((Search.start grammar).run grammar steps).opened = grammar.reachable
  /-- A literal is collected just if it occurs in a parser rule that is reached.  A terminal rule, or
  a call of a rule that does not exist, adds nothing. -/
  mem_iff : ∀ literal, literal ∈ grammar.literals ↔ ∃ handle element, grammar.Reaches handle ∧
    grammar.Parses handle element ∧ element.Contains (.keyword literal)

/-- **Collecting keywords is reachability**, in every grammar, however its rules call each other. -/
theorem literals_exact (grammar : Grammar) : grammar.LiteralsExact where
  ends := ⟨_, Search.run_ends grammar.bound_start_le, grammar.reachable_eq_run.symm⟩
  mem_iff _ := mem_literals_iff

/-- Rules that call each other are each opened once; a rule that none of them calls adds nothing. -/
example : (GrammarModel.toGrammar ⟨"Loops",
    [.parser ⟨"A", true, .group none [.keyword none "a", .ruleCall none "B"]⟩,
      .parser ⟨"B", false, .alternatives none [.ruleCall none "A", .keyword none "b"]⟩,
      .parser ⟨"C", false, .keyword none "c"⟩]⟩).literals = ["b", "a"] := by decide

end Grammar

end EditorBridge
