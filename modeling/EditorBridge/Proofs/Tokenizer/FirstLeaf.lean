import EditorBridge.Tokenizer.Description
/-!
Guarded actions as decision trees.  A leaf has a position, the numbers of the cases on the way to it; of two leaves,
that one is left of the other whose number is smaller where the ways part.  The class of a text is the token of the
first leaf all of whose guards apply (`classify_first_leaf`): where the cases under a guard yield nothing, the
guard might as well not have applied.
-/

set_option autoImplicit false

namespace EditorBridge.Action

/-! ## Leaves -/

/-- A leaf of an action: its position, the guards on the way to it from the outermost one on, and its token. -/
inductive HasLeaf : Action → List Nat → List String → String → Prop
  | token (name : String) (next : Option String) : HasLeaf (.token name next) [] [] name
  | inside {guarded : List (String × Action)} {index : Nat} {guard : String} {action : Action}
    {position : List Nat} {guards : List String} {name : String} :
    guarded[index]? = some (guard, action) → HasLeaf action position guards name →
    HasLeaf (.cases guarded) (index :: position) (guard :: guards) name

/-- At the first number in which two positions differ, that of the left one is smaller. -/
inductive LeftOf : List Nat → List Nat → Prop
  | branch {index other : Nat} (position rest : List Nat) :
    index < other → LeftOf (index :: position) (other :: rest)
  | shared (index : Nat) {position rest : List Nat} :
    LeftOf position rest → LeftOf (index :: position) (index :: rest)

section Classifying

variable (isMember : String → String → Bool) (text : String)

/-- A leaf that applies: all guards on the way to it do. -/
def Reaches (action : Action) (position : List Nat) (name : String) : Prop :=
  ∃ guards, action.HasLeaf position guards name ∧ ∀ guard ∈ guards, applies isMember text guard = true

/-- The leaf that applies and has every other such leaf on its right. -/
structure ReachesFirst (action : Action) (position : List Nat) (name : String) : Prop where
  reaches : action.Reaches isMember text position name
  left_of_others : ∀ other name', action.Reaches isMember text other name' →
    position = other ∨ LeftOf position other

/-- The class that one case yields, if its guard applies. -/
def classifyCase (case : String × Action) : Option String :=
  if applies isMember text case.1 then case.2.classify isMember text else none

end Classifying

variable {isMember : String → String → Bool} {text : String} {guarded before after : List (String × Action)}
  {case : String × Action} {action : Action} {position : List Nat} {index : Nat} {name : String}

theorem HasLeaf.token_unique {guards guards' : List String} {name' : String}
    (h : action.HasLeaf position guards name) (h' : action.HasLeaf position guards' name') :
    name = name' := by
  induction h generalizing guards' with
  | token name next =>
    cases h' with
    | token => rfl
  | inside hcase _ ih =>
    cases h' with
    | inside hcase' hleaf' =>
      rw [hcase] at hcase'
      cases hcase'
      exact ih hleaf'

theorem LeftOf.asymm {other : List Nat} (h : LeftOf position other) : ¬LeftOf other position := by
  induction h with
  | branch position rest hlt =>
    intro hback
    cases hback with
    | branch _ _ hgt => omega
    | shared => omega
  | shared index _ ih =>
    intro hback
    cases hback with
    | branch _ _ hgt => omega
    | shared _ hback => exact ih hback

theorem reaches_token_iff {next : Option String} {name' : String} :
    (Action.token name next).Reaches isMember text position name' ↔ position = [] ∧ name' = name := by
  constructor
  · rintro ⟨guards, hleaf, -⟩
    cases hleaf with
    | token => exact ⟨rfl, rfl⟩
  · rintro ⟨rfl, rfl⟩
    exact ⟨[], .token _ next, by simp⟩

theorem reaches_cases_iff : (Action.cases guarded).Reaches isMember text position name ↔
    ∃ index case rest, position = index :: rest ∧ guarded[index]? = some case ∧
      applies isMember text case.1 = true ∧ case.2.Reaches isMember text rest name := by
  constructor
  · rintro ⟨guards, hleaf, hguards⟩
    cases hleaf with
    | @inside _ index guard action rest guards _ hcase hleaf =>
      obtain ⟨hguard, hguards⟩ := List.forall_mem_cons.mp hguards
      exact ⟨index, (guard, action), rest, rfl, hcase, hguard, guards, hleaf, hguards⟩
  · rintro ⟨index, case, rest, rfl, hcase, hguard, guards, hleaf, hguards⟩
    exact ⟨case.1 :: guards, .inside hcase hleaf, List.forall_mem_cons.mpr ⟨hguard, hguards⟩⟩

/-! ## Classes -/

theorem classifyCases_cons : classifyCases isMember text (case :: guarded) =
    (classifyCase isMember text case).orElse fun _ => classifyCases isMember text guarded := by
  obtain ⟨guard, action⟩ := case
  rw [classifyCases, classifyCase]
  cases applies isMember text guard <;> rfl

theorem classifyCases_eq : classifyCases isMember text guarded =
    guarded.findSome? (classifyCase isMember text) := by
  induction guarded with
  | nil => rfl
  | cons case guarded ih =>
    rw [classifyCases_cons, ih, List.findSome?_cons]
    cases classifyCase isMember text case <;> rfl

theorem classify_cases : (Action.cases guarded).classify isMember text =
    guarded.findSome? (classifyCase isMember text) := by
  rw [classify, classifyCases_eq]

theorem classifyCase_eq_some_iff : classifyCase isMember text case = some name ↔
    applies isMember text case.1 = true ∧ case.2.classify isMember text = some name := by
  simp [classifyCase]

/-- A case that yields nothing can be left out, whether its guard does not apply or the cases under it fail. -/
theorem classify_cases_of_failing (h : classifyCase isMember text case = none) :
    (Action.cases (before ++ case :: after)).classify isMember text =
      (Action.cases (before ++ after)).classify isMember text := by
  rw [classify_cases, classify_cases, List.findSome?_append, List.findSome?_append, List.findSome?_cons, h]

theorem sizeOf_lt_of_mem (h : case ∈ guarded) : sizeOf case.2 < sizeOf (Action.cases guarded) := by
  have hmem := List.sizeOf_lt_of_mem h
  have hcase : sizeOf case.2 < sizeOf case := by
    obtain ⟨guard, action⟩ := case
    have hpair : sizeOf (guard, action) = 1 + sizeOf guard + sizeOf action := Prod.mk.sizeOf_spec guard action
    show sizeOf action < sizeOf (guard, action)
    omega
  have hcases : sizeOf (Action.cases guarded) = 1 + sizeOf guarded := Action.cases.sizeOf_spec guarded
  omega

/-! ## The first leaf -/

theorem ReachesFirst.name_unique {other : List Nat} {name' : String}
    (h : action.ReachesFirst isMember text position name) (h' : action.ReachesFirst isMember text other name') :
    name = name' := by
  have hsame : position = other := by
    rcases h.left_of_others _ _ h'.reaches with heq | hleft
    · exact heq
    · rcases h'.left_of_others _ _ h.reaches with heq | hright
      · exact heq.symm
      · exact absurd hright hleft.asymm
  subst hsame
  obtain ⟨guards, hleaf, -⟩ := h.reaches
  obtain ⟨guards', hleaf', -⟩ := h'.reaches
  exact hleaf.token_unique hleaf'

theorem reachesFirst_token {next : Option String} :
    (Action.token name next).ReachesFirst isMember text [] name where
  reaches := reaches_token_iff.mpr ⟨rfl, rfl⟩
  left_of_others _ _ hother := .inl (reaches_token_iff.mp hother).1.symm

/-- The first leaf under a case is the first of all cases, if none is reached under the cases before it. -/
theorem reachesFirst_cases (hbefore : ∀ case ∈ before, applies isMember text case.1 = true →
      ∀ position name, ¬case.2.Reaches isMember text position name)
    (hguard : applies isMember text case.1 = true) (h : case.2.ReachesFirst isMember text position name) :
    (Action.cases (before ++ case :: after)).ReachesFirst isMember text (before.length :: position) name where
  reaches := reaches_cases_iff.mpr ⟨before.length, case, position, rfl, by simp, hguard, h.reaches⟩
  left_of_others other name' hother := by
    obtain ⟨index, case', rest, rfl, hcase', hguard', hrest⟩ := reaches_cases_iff.mp hother
    obtain hlt | rfl | hgt := Nat.lt_trichotomy index before.length
    · rw [List.getElem?_append_left hlt] at hcase'
      exact absurd hrest (hbefore case' (List.mem_of_getElem? hcase') hguard' rest name')
    · have hsame : case = case' := by simpa using hcase'
      subst hsame
      rcases h.left_of_others rest name' hrest with rfl | hleft
      · exact .inl rfl
      · exact .inr (.shared _ hleft)
    · exact .inr (.branch _ _ hgt)

/-- What a class says of the leaves of an action. -/
def FirstLeaf (isMember : String → String → Bool) (text : String) (action : Action) : Option String → Prop
  | none => ∀ position name, ¬action.Reaches isMember text position name
  | some name => ∃ position, action.ReachesFirst isMember text position name

theorem FirstLeaf.unique {result other : Option String} (h : action.FirstLeaf isMember text result)
    (hother : action.FirstLeaf isMember text other) : result = other := by
  cases result with
  | none =>
    cases other with
    | none => rfl
    | some name =>
      obtain ⟨position, hfirst⟩ := hother
      exact absurd hfirst.reaches (h position name)
  | some name =>
    obtain ⟨position, hfirst⟩ := h
    cases other with
    | none => exact absurd hfirst.reaches (hother position name)
    | some name' =>
      obtain ⟨position', hfirst'⟩ := hother
      rw [hfirst.name_unique hfirst']

/-- Cases yield the first leaf if the action under each of them does. -/
theorem firstLeaf_cases
    (h : ∀ case ∈ guarded, case.2.FirstLeaf isMember text (case.2.classify isMember text)) :
    (Action.cases guarded).FirstLeaf isMember text ((Action.cases guarded).classify isMember text) := by
  have hfails : ∀ case ∈ guarded, classifyCase isMember text case = none →
      applies isMember text case.1 = true → ∀ position name, ¬case.2.Reaches isMember text position name := by
    intro case hmem hnone hguard
    have hcase := h case hmem
    rw [classifyCase, if_pos hguard] at hnone
    rwa [hnone] at hcase
  cases hclass : (Action.cases guarded).classify isMember text with
  | none =>
    rw [classify_cases, List.findSome?_eq_none_iff] at hclass
    intro position name hreaches
    obtain ⟨index, case, rest, -, hcase, hguard, hrest⟩ := reaches_cases_iff.mp hreaches
    have hmem := List.mem_of_getElem? hcase
    exact hfails case hmem (hclass case hmem) hguard rest name hrest
  | some name =>
    rw [classify_cases, List.findSome?_eq_some_iff] at hclass
    obtain ⟨before, case, after, rfl, hcase, hbefore⟩ := hclass
    obtain ⟨hguard, hsome⟩ := classifyCase_eq_some_iff.mp hcase
    have hleaf := h case (by simp)
    rw [hsome] at hleaf
    obtain ⟨position, hfirst⟩ := hleaf
    refine ⟨before.length :: position, reachesFirst_cases ?_ hguard hfirst⟩
    intro other hother
    exact hfails other (List.mem_append_left _ hother) (hbefore other hother)

theorem firstLeaf_classify (isMember : String → String → Bool) (text : String) :
    ∀ action : Action, action.FirstLeaf isMember text (action.classify isMember text)
  | token name next => ⟨[], reachesFirst_token⟩
  | cases guarded => firstLeaf_cases fun case _ => firstLeaf_classify isMember text case.2
termination_by action => sizeOf action
decreasing_by exact sizeOf_lt_of_mem ‹case ∈ guarded›

theorem classify_eq_iff {result : Option String} :
    action.classify isMember text = result ↔ action.FirstLeaf isMember text result := by
  have hleaf := firstLeaf_classify isMember text action
  constructor
  · rintro rfl
    exact hleaf
  · exact hleaf.unique

/-- The class of a text is the token of the first leaf that applies, and there is none only without such a leaf.
A case whose guard does not apply, or under which everything fails, might as well be missing. -/
theorem classify_first_leaf (isMember : String → String → Bool) (text : String) :
    (∀ (action : Action) (name : String), action.classify isMember text = some name ↔
      ∃ position, action.ReachesFirst isMember text position name) ∧
    (∀ action : Action, action.classify isMember text = none ↔
      ∀ position name, ¬action.Reaches isMember text position name) ∧
    ∀ (before after : List (String × Action)) (guard : String) (nested : Action),
      (applies isMember text guard = true → nested.classify isMember text = none) →
      (Action.cases (before ++ (guard, nested) :: after)).classify isMember text =
        (Action.cases (before ++ after)).classify isMember text := by
  refine ⟨fun _ _ => classify_eq_iff, fun _ => classify_eq_iff, ?_⟩
  intro before after guard nested hfails
  refine classify_cases_of_failing ?_
  unfold classifyCase
  split
  next hguard => exact hfails hguard
  next => rfl

/-- A reserved word that is no operator falls through a guard that applies to it. -/
theorem classify_first_leaf_falls_through :
    let isMember list text := list == Tokenizer.keywordsAttribute && text == "if"
    let nested := Action.cases [(Tokenizer.operatorsAttribute, plain Tokenizer.operatorToken)]
    let otherwise := [(Tokenizer.defaultCase, plain Tokenizer.plainToken)]
    applies isMember "if" Tokenizer.keywordsAttribute = true ∧ nested.classify isMember "if" = none ∧
      (Action.cases ((Tokenizer.keywordsAttribute, nested) :: otherwise)).classify isMember "if" =
        some Tokenizer.plainToken := by
  intro isMember nested otherwise
  have hnone : nested.classify isMember "if" = none := by decide
  have hfalls : (Action.cases ((Tokenizer.keywordsAttribute, nested) :: otherwise)).classify isMember "if" =
      (Action.cases otherwise).classify isMember "if" :=
    (classify_first_leaf isMember "if").2.2 [] otherwise _ nested fun _ => hnone
  exact ⟨by decide, hnone, hfalls⟩

end EditorBridge.Action
