import EditorBridge.Proofs.Regex.Parts
/-!
How deeply groups are nested.  Whatever is read of an expression is no deeper than the whole, so the limit on
open groups matters to no expression that is not as deep itself (`Parser.branches_of_depth_lt`).
-/

set_option autoImplicit false

namespace EditorBridge.Regex

namespace Ast

theorem depthList_le_ofParts (parts : List Ast) : depthList parts ≤ (ofParts parts).depth := by
  rcases parts with _ | ⟨part, _ | ⟨next, parts⟩⟩
  · exact Nat.le_refl _
  · exact Nat.max_le.mpr ⟨Nat.le_refl _, Nat.zero_le _⟩
  · exact Nat.le_succ _

theorem depthList_le_ofBranches (branches : List Ast) : depthList branches ≤ (ofBranches branches).depth := by
  rcases branches with _ | ⟨branch, _ | ⟨next, branches⟩⟩
  · exact Nat.le_refl _
  · exact Nat.max_le.mpr ⟨Nat.le_refl _, Nat.zero_le _⟩
  · exact Nat.le_succ _

theorem depthList_reverse (asts : List Ast) : depthList asts.reverse = depthList asts := by
  induction asts with
  | nil => rfl
  | cons ast rest ih =>
    rw [List.reverse_cons, depthList_append, ih, depthList, depthList, depthList, Nat.max_zero, Nat.max_comm]

end Ast

namespace Parser

variable {σ τ : Scanner} {state state' : BranchState}

/-- How deeply what has been read is nested. -/
def BranchState.depth (state : BranchState) : Nat := max (Ast.depthList state.before) (Ast.depthList state.parts)

theorem BranchState.depth_add (state : BranchState) (part : Ast) :
    (state.add part).depth = max state.depth part.depth := by
  simp only [depth, add, Ast.depthList]
  omega

theorem BranchState.depth_le_next (state : BranchState) : state.depth ≤ state.next.depth := by
  have hparts := Ast.depthList_le_ofParts state.parts.reverse
  rw [Ast.depthList_reverse] at hparts
  simp only [depth, next, Ast.depthList]
  omega

theorem BranchState.depth_le_close (state : BranchState) : state.depth ≤ state.close.depth := by
  have hbranches := Ast.depthList_le_ofBranches state.next.before.reverse
  rw [Ast.depthList_reverse] at hbranches
  have hnext : state.depth ≤ max (Ast.depthList state.next.before) 0 := state.depth_le_next
  rw [Nat.max_zero] at hnext
  exact Nat.le_trans hnext hbranches

/-- A repetition takes the place of the last part. -/
theorem simpleRepetition_run {least : Nat} {most : Option Nat} {parts parts' : List Ast}
    (h : (simpleRepetition least most parts).run σ = some (parts', τ)) : ∃ greedy ast before,
      parts = ast :: before ∧ parts' = .repetition least most greedy ast :: before := by
  obtain ⟨⟨ast, before⟩, υ, hfound, h⟩ := bind_run_some.mp h
  obtain ⟨-, hparts⟩ := repeatable_run hfound
  obtain ⟨_, υ, -, h⟩ := bind_run_some.mp h
  obtain ⟨greedy, -, hresult⟩ := map_run_some.mp h
  exact ⟨greedy, ast, before, hparts, hresult⟩

theorem repetitionEnd_run {least : Nat} {most : Option Nat} {ast ast' : Ast}
    (h : (repetitionEnd least most ast).run σ = some (ast', τ)) :
    ∃ greedy, ast' = .repetition least most greedy ast := by
  obtain ⟨c, υ, -, h⟩ := bind_run_some.mp h
  dsimp only at h
  split at h
  · exact absurd h failure_bind_run_ne_some
  obtain ⟨_, υ, -, h⟩ := bind_run_some.mp h
  obtain ⟨greedy, υ, -, h⟩ := bind_run_some.mp h
  split at h
  · exact absurd h failure_bind_run_ne_some
  · exact ⟨greedy, (pure_run_some.mp h).1⟩

theorem countedRepetition_run {parts parts' : List Ast}
    (h : (countedRepetition parts).run σ = some (parts', τ)) : ∃ least most greedy ast before,
      parts = ast :: before ∧ parts' = .repetition least most greedy ast :: before := by
  rw [countedRepetition_eq] at h
  obtain ⟨⟨ast, before⟩, υ, hfound, h⟩ := bind_run_some.mp h
  obtain ⟨-, hparts⟩ := repeatable_run hfound
  obtain ⟨_, υ, -, h⟩ := bind_run_some.mp h
  obtain ⟨least, υ, -, h⟩ := bind_run_some.mp h
  obtain ⟨most, υ, -, h⟩ := bind_run_some.mp h
  obtain ⟨ast', hend, hresult⟩ := map_run_some.mp h
  obtain ⟨greedy, rfl⟩ := repetitionEnd_run hend
  exact ⟨least, most, greedy, ast, before, hparts, hresult⟩

/-- A part that is read makes nothing less deep. -/
theorem PartRead.depth_le {inner : Parser Ast} (h : PartRead inner state σ state' τ) :
    state.depth ≤ state'.depth := by
  have hrepeat : ∀ {least most greedy ast before}, state.parts = ast :: before →
      state.depth ≤ BranchState.depth ⟨state.before, .repetition least most greedy ast :: before⟩ := by
    intro least most greedy ast before hparts
    simp only [BranchState.depth, hparts, Ast.depthList, Ast.depth]
    omega
  cases h with
  | next => exact state.depth_le_next
  | group => exact Nat.le_trans (Nat.le_max_left _ _) (Nat.le_of_eq (state.depth_add _).symm)
  | bracketed => exact Nat.le_trans (Nat.le_max_left _ _) (Nat.le_of_eq (state.depth_add _).symm)
  | primitive => exact Nat.le_trans (Nat.le_max_left _ _) (Nat.le_of_eq (state.depth_add _).symm)
  | simple hrest hbounds hrun =>
    obtain ⟨greedy, ast, before, hparts, rfl⟩ := simpleRepetition_run hrun
    exact hrepeat hparts
  | counted hrest hrun =>
    obtain ⟨least, most, greedy, ast, before, hparts, rfl⟩ := countedRepetition_run hrun
    exact hrepeat hparts

theorem depth_le_of_branchesRest_run {inner : Parser Ast} {steps : Nat} {before parts : List Ast} {ast : Ast}
    (h : (branchesRest inner steps before parts).run σ = some (ast, τ)) :
    (BranchState.mk before parts).depth ≤ ast.depth := by
  induction steps generalizing σ before parts with
  | zero => exact absurd h (Option.some_ne_none _).symm
  | succ steps ih =>
    obtain ⟨υ, -, ⟨-, rfl, -⟩ | ⟨state, υ', hpart, hnext⟩⟩ := branchesRest_run_some.mp h
    · exact BranchState.depth_le_close _
    · exact Nat.le_trans hpart.depth_le (ih hnext)

/-- Another reader reads expressions below a depth alike. -/
def AgreesBelow (depth : Nat) (inner inner' : Parser Ast) : Prop :=
  ∀ σ ast τ, ast.depth < depth → inner.run σ = some (ast, τ) → inner'.run σ = some (ast, τ)

theorem AgreesBelow.group {depth : Nat} {inner inner' : Parser Ast} (h : AgreesBelow depth inner inner') :
    AgreesBelow (depth + 1) (group inner) (group inner') := by
  intro σ part τ hdepth hrun
  refine group_run_some.mpr ((group_run_some.mp hrun).imp id ?_)
  rintro ⟨change, υ, υ', body, υ'', after, hopening, hblanks, hbody, hclose, rfl, rfl⟩
  have hinside : body.depth < depth := Nat.lt_of_succ_lt_succ hdepth
  exact ⟨change, υ, υ', body, υ'', after, hopening, hblanks, h _ _ _ hinside hbody, hclose, rfl, rfl⟩

theorem AgreesBelow.branchesRest {depth : Nat} {inner inner' : Parser Ast}
    (h : AgreesBelow depth inner inner') (steps : Nat) (before parts : List Ast) :
    AgreesBelow (depth + 1) (branchesRest inner steps before parts)
      (branchesRest inner' steps before parts) := by
  induction steps generalizing before parts with
  | zero => exact fun σ ast τ _ hrun => absurd hrun (Option.some_ne_none _).symm
  | succ steps ih =>
    intro σ ast τ hdepth hrun
    obtain ⟨υ, hskip, hround⟩ := branchesRest_run_some.mp hrun
    refine branchesRest_run_some.mpr ⟨υ, hskip, hround.imp id ?_⟩
    rintro ⟨state, υ', hpart, hnext⟩
    refine ⟨state, υ', ?_, ih _ _ _ _ _ hdepth hnext⟩
    have hstate := depth_le_of_branchesRest_run hnext
    cases hpart with
    | @group _ part _ hrest hgroup =>
      have hadd := BranchState.depth_add ⟨before, parts⟩ part
      have hpart : ((BranchState.mk before parts).add part).depth ≤ ast.depth := hstate
      exact .group hrest (h.group _ _ _ (by omega) hgroup)
    | next hrest => exact .next hrest
    | bracketed hrest hrun => exact .bracketed hrest hrun
    | simple hrest hbounds hrun => exact .simple hrest hbounds hrun
    | counted hrest hrun => exact .counted hrest hrun
    | primitive hrest hc hrun => exact .primitive hrest hc hrun

/-- An expression can be read with any limit on open groups above its own depth. -/
theorem branches_of_depth_lt {nesting nesting' : Nat} :
    AgreesBelow nesting' (branches nesting) (branches nesting') := by
  induction nesting' generalizing nesting with
  | zero => exact fun _ _ _ hdepth => absurd hdepth (Nat.not_lt_zero _)
  | succ nesting' ih =>
    intro σ ast τ hdepth hrun
    cases nesting with
    | zero => exact absurd hrun (Option.some_ne_none _).symm
    | succ nesting => exact AgreesBelow.branchesRest ih _ _ _ _ _ _ hdepth hrun

end Parser

end EditorBridge.Regex
