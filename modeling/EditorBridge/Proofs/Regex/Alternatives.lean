import EditorBridge.Proofs.Regex.Anchoring
/-!
Alternatives between literals.  Escaped literals with bars between them are read as branches, one for each
literal, and matched from the first to the last (`Pattern.tries_choice`).  Where no literal stands before a
longer one, the preferred match is the longest (`Pattern.Tries.firstEnd?_eq_some_iff`).
-/

set_option autoImplicit false

namespace EditorBridge

/-- Alternatives between literals, as they are spelled in a pattern. -/
def Pattern.alternatives (literals : List (List Char)) : List Char :=
  ['|'].intercalate (literals.map fun literal => literal.flatMap escapeChar)

theorem Pattern.alternatives_singleton (literal : List Char) :
    alternatives [literal] = literal.flatMap escapeChar := by
  simp [alternatives]

theorem Pattern.alternatives_cons_cons (first second : List Char) (literals : List (List Char)) :
    alternatives (first :: second :: literals) =
      first.flatMap escapeChar ++ '|' :: alternatives (second :: literals) := by
  unfold alternatives
  rw [List.map_cons, List.map_cons, List.intercalate_cons_cons, List.append_assoc]
  rfl

namespace Regex

/-! ## Reading -/

def Ast.ofLiteral (literal : List Char) : Ast := Ast.ofParts (literal.map ofChar)

namespace Parser

variable {inner : Parser Ast} {steps : Nat} {before parts : List Ast} {rest : List Char}

theorem branchesRest_bar :
    (branchesRest inner (steps + 1) before parts).run { rest := '|' :: rest } =
      (branchesRest inner steps (Ast.ofParts parts.reverse :: before) []).run { rest := rest } := rfl

/-- Each literal is read as one branch; there must be a step for each character, and one to end. -/
theorem branchesRest_alternatives (h : rest = [] ∨ ∃ after, rest = ')' :: after)
    (first : List Char) (literals : List (List Char))
    (hsteps : (EditorBridge.Pattern.alternatives (first :: literals)).length < steps) :
    (branchesRest inner steps before []).run
        { rest := EditorBridge.Pattern.alternatives (first :: literals) ++ rest } =
      some (Ast.ofBranches (before.reverse ++ (first :: literals).map Ast.ofLiteral),
        { rest := rest }) := by
  induction literals generalizing first before steps with
  | nil =>
    rw [EditorBridge.Pattern.alternatives_singleton] at hsteps ⊢
    have hlength := EditorBridge.Pattern.length_le_escaped first
    obtain ⟨spare, hspare⟩ : ∃ spare, steps = spare + 1 + first.length :=
      ⟨steps - 1 - first.length, by omega⟩
    rw [hspare, branchesRest_literal, branchesRest_end h, List.append_nil, List.reverse_reverse,
      List.reverse_cons]
    rfl
  | cons second literals ih =>
    rw [EditorBridge.Pattern.alternatives_cons_cons] at hsteps ⊢
    rw [List.length_append, List.length_cons] at hsteps
    have hlength := EditorBridge.Pattern.length_le_escaped first
    obtain ⟨spare, hspare⟩ : ∃ spare, steps = spare + 1 + first.length :=
      ⟨steps - 1 - first.length, by omega⟩
    rw [hspare, List.append_assoc, List.cons_append, branchesRest_literal, branchesRest_bar,
      ih second (by omega)]
    simp [Ast.ofLiteral]

theorem branches_alternatives {literals : List (List Char)} (hliterals : literals ≠ []) (nesting : Nat)
    (h : rest = [] ∨ ∃ after, rest = ')' :: after) :
    (branches (nesting + 1)).run { rest := EditorBridge.Pattern.alternatives literals ++ rest } =
      some (Ast.ofBranches (literals.map Ast.ofLiteral), { rest := rest }) := by
  obtain ⟨first, others, rfl⟩ := List.exists_cons_of_ne_nil hliterals
  have hsteps : ∀ pattern : List Char, Parser.steps.run { rest := pattern } =
      some (pattern.length + 1, { rest := pattern }) := fun _ => rfl
  rw [branches, StateT.run_bind, hsteps]
  simp only [Option.bind_eq_bind, Option.bind_some]
  rw [branchesRest_alternatives h]
  · rfl
  · rw [List.length_append]
    omega

end Parser

theorem Ast.depth_ofLiteral (literal : List Char) : (Ast.ofLiteral literal).depth ≤ 1 := by
  have hchars := Ast.depthList_ofChar literal
  unfold Ast.ofLiteral
  rcases literal with _ | ⟨c, _ | ⟨d, more⟩⟩
  · exact Nat.zero_le _
  · exact Nat.zero_le _
  · have hconcat : (Ast.ofParts ((c :: d :: more).map ofChar)).depth =
        Ast.depthList ((c :: d :: more).map ofChar) + 1 := rfl
    omega

theorem Ast.depthList_ofLiteral (literals : List (List Char)) :
    Ast.depthList (literals.map Ast.ofLiteral) ≤ 1 := by
  induction literals with
  | nil => exact Nat.zero_le _
  | cons literal literals ih =>
    have hfirst := Ast.depth_ofLiteral literal
    rw [List.map_cons, Ast.depthList]
    omega

theorem Ast.depth_ofBranches_ofLiteral (literals : List (List Char)) :
    (Ast.ofBranches (literals.map Ast.ofLiteral)).depth ≤ 2 := by
  have hlist := Ast.depthList_ofLiteral literals
  rcases literals with _ | ⟨first, _ | ⟨second, more⟩⟩
  · exact Nat.zero_le _
  · exact Nat.le_succ_of_le (Ast.depth_ofLiteral first)
  · have hbranches : (Ast.ofBranches ((first :: second :: more).map Ast.ofLiteral)).depth =
        Ast.depthList ((first :: second :: more).map Ast.ofLiteral) + 1 := rfl
    omega

/-! ## Resolution -/

namespace Pattern

def ofLiteral : List Char → Pattern
  | [] => .empty
  | [c] => .one (.singleton c)
  | literal => .afterLiteral literal .empty

/-- Branches of literals; after the last one nothing matches. -/
def branches (literals : List (List Char)) : Pattern :=
  literals.foldr (fun literal rest => .alternate (ofLiteral literal) rest) (.one [])

/-- The pattern of a choice between literals. -/
def choice : List (List Char) → Pattern
  | [literal] => ofLiteral literal
  | literals => branches literals

end Pattern

theorem resolve_ofLiteral (literal : List Char) :
    (Ast.ofLiteral literal).resolve.run {} = some (Pattern.ofLiteral literal, {}) := by
  rcases literal with _ | ⟨c, _ | ⟨d, more⟩⟩
  · rfl
  · rfl
  · have hempty : (Ast.resolveConcat []).run {} = some (.empty, {}) := rfl
    have hliteral := Ast.resolveConcat_literal (c :: d :: more) hempty
    rw [List.append_nil] at hliteral
    exact hliteral

theorem resolveAlternation_ofLiteral (literals : List (List Char)) :
    (Ast.resolveAlternation (literals.map Ast.ofLiteral)).run {} =
      some (Pattern.branches literals, {}) := by
  induction literals with
  | nil => rfl
  | cons literal literals ih =>
    rw [List.map_cons, Ast.resolveAlternation, StateT.run_bind, resolve_ofLiteral]
    simp only [Option.bind_eq_bind, Option.bind_some]
    rw [StateT.run_bind, ih]
    rfl

theorem resolve_choice {literals : List (List Char)} (hliterals : literals ≠ []) :
    (Ast.ofBranches (literals.map Ast.ofLiteral)).resolve.run {} =
      some (Pattern.choice literals, {}) := by
  rcases literals with _ | ⟨first, _ | ⟨second, more⟩⟩
  · exact absurd rfl hliterals
  · exact resolve_ofLiteral first
  · exact resolveAlternation_ofLiteral (first :: second :: more)

/-- Alternatives between literals spell a choice between them, and so does their anchored form. -/
theorem spells_choice {source : String} {literals : List (List Char)} (hliterals : literals ≠ [])
    (hsource : source.toList = EditorBridge.Pattern.alternatives literals) :
    Spells source (Pattern.choice literals) ∧
      Spells (TerminalPattern.anchored source) (Pattern.choice literals).anchored := by
  have hdepth := Ast.depth_ofBranches_ofLiteral literals
  have hnesting : Parser.maxNesting = 250 := rfl
  have hresolve := resolve_choice hliterals
  have hread := Parser.branches_alternatives hliterals Parser.maxNesting (Or.inl rfl)
  have hinside := Parser.branches_alternatives hliterals 249 (Or.inr ⟨['$'], rfl⟩)
  rw [List.append_nil] at hread
  constructor
  · have hnested : (Ast.ofBranches (literals.map Ast.ofLiteral)).depth ≤ Parser.maxNesting := by omega
    have hparse : parse source = some (Ast.ofBranches (literals.map Ast.ofLiteral)) := by
      rw [parse, hsource, hread]
      simp only [Option.bind_eq_bind, Option.bind_some]
      simp [hnested]
    exact .of_parse hparse hresolve
  · rw [← hsource] at hinside
    exact .anchored hinside (by omega) hresolve

/-! ## Matching -/

namespace Pattern

variable {pattern : Pattern} {literals : List (List Char)}

theorem ends_ofLiteral (text literal : List Char) (place : Nat) :
    ends text (ofLiteral literal) place =
      if literal <+: text.drop place then [place + literal.length] else [] := by
  have hafter : ends text (afterLiteral literal .empty) place =
      if literal <+: text.drop place then [place + literal.length] else [] := by
    split
    · rename_i hstarts
      exact ends_afterLiteral_of_starts hstarts
    · rename_i hstarts
      exact ends_afterLiteral_of_not_starts hstarts
  rw [← hafter]
  rcases literal with _ | ⟨c, _ | ⟨d, more⟩⟩
  · rfl
  · have hsingle : ends text (afterLiteral [c] .empty) place =
        (ends text (.one (.singleton c)) place).flatMap fun stop => [stop] := rfl
    rw [hsingle]
    exact (List.flatMap_singleton' _).symm
  · rfl

/-- A pattern matches one of some literals, the first of them preferred. -/
def Tries (pattern : Pattern) (literals : List (List Char)) : Prop :=
  ∀ text place, ends text pattern place = literals.flatMap fun literal =>
    if literal <+: text.drop place then [place + literal.length] else []

theorem tries_branches (literals : List (List Char)) : (branches literals).Tries literals := by
  intro text place
  unfold branches
  induction literals with
  | nil =>
    have hnone : text[place]?.any (CharSet.has []) = false := by
      cases text[place]? <;> rfl
    rw [List.foldr_nil, ends, hnone]
    rfl
  | cons literal literals ih =>
    rw [List.foldr_cons, ends, ih, ends_ofLiteral, List.flatMap_cons]

theorem tries_choice (literals : List (List Char)) : (choice literals).Tries literals := by
  rcases literals with _ | ⟨first, _ | ⟨second, more⟩⟩
  · exact tries_branches []
  · intro text place
    rw [List.flatMap_cons, List.flatMap_nil, List.append_nil]
    exact ends_ofLiteral text first place
  · exact tries_branches (first :: second :: more)

theorem Tries.mem_ends_iff (h : pattern.Tries literals) {text : List Char} {place stop : Nat} :
    stop ∈ ends text pattern place ↔
      ∃ literal ∈ literals, literal <+: text.drop place ∧ stop = place + literal.length := by
  rw [h text place, List.mem_flatMap]
  apply exists_congr
  intro literal
  apply and_congr_right
  intro _
  split
  · rename_i hstarts
    simp [hstarts]
  · rename_i hstarts
    simp [hstarts]

/-- A search finds a literal wherever one occurs. -/
theorem Tries.isMatch_iff (h : pattern.Tries literals) (text : String) :
    pattern.isMatch text = true ↔ ∃ literal ∈ literals, literal <:+: text.toList := by
  rw [Pattern.isMatch_iff]
  constructor
  · rintro ⟨place, _, hends⟩
    obtain ⟨stop, hstop⟩ := List.exists_mem_of_ne_nil _ hends
    obtain ⟨literal, hliteral, hstarts, _⟩ := h.mem_ends_iff.mp hstop
    exact ⟨literal, hliteral, hstarts.isInfix.trans (List.drop_suffix _ _).isInfix⟩
  · rintro ⟨literal, hliteral, before, after, htext⟩
    have hstarts : literal <+: text.toList.drop before.length := by
      rw [← htext, List.append_assoc, List.drop_left]
      exact List.prefix_append literal after
    have hplace : before.length ≤ text.toList.length := by
      rw [← htext, List.append_assoc, List.length_append]
      exact Nat.le_add_right _ _
    exact ⟨before.length, hplace, List.ne_nil_of_mem (h.mem_ends_iff.mpr ⟨literal, hliteral, hstarts, rfl⟩)⟩

theorem Tries.isMatch_anchored_iff (h : pattern.Tries literals) (text : String) :
    pattern.anchored.isMatch text = true ↔ text.toList ∈ literals := by
  rw [Pattern.isMatch_anchored_iff, h.mem_ends_iff, List.drop_zero]
  constructor
  · rintro ⟨literal, hliteral, hstarts, hlength⟩
    have hsame : literal = text.toList := hstarts.eq_of_length (by omega)
    rwa [← hsame]
  · intro hmem
    exact ⟨text.toList, hmem, List.prefix_rfl, by omega⟩

theorem Tries.firstEnd?_eq (h : pattern.Tries literals) (text : String) :
    pattern.firstEnd? text = literals.findSome? fun literal =>
      if literal <+: text.toList then some literal.length else none := by
  rw [firstEnd?, h, List.head?_flatMap]
  congr 1
  funext literal
  rw [List.drop_zero, Nat.zero_add]
  split <;> rfl

theorem Tries.firstEnd?_eq_none_iff (h : pattern.Tries literals) (text : String) :
    pattern.firstEnd? text = none ↔ ∀ literal ∈ literals, ¬ literal <+: text.toList := by
  rw [h.firstEnd?_eq, List.findSome?_eq_none_iff]
  simp

/-- If no literal is tried before a longer one, the preferred match is the longest. -/
theorem Tries.firstEnd?_eq_some_iff (h : pattern.Tries literals)
    (hsorted : literals.Pairwise fun first second => second.length ≤ first.length)
    (text : String) (stop : Nat) :
    pattern.firstEnd? text = some stop ↔ ∃ literal ∈ literals, literal <+: text.toList ∧
      literal.length = stop ∧ ∀ other ∈ literals, other <+: text.toList → other.length ≤ stop := by
  have hlongest : ∀ {stop}, pattern.firstEnd? text = some stop →
      ∃ literal ∈ literals, literal <+: text.toList ∧
        literal.length = stop ∧ ∀ other ∈ literals, other <+: text.toList → other.length ≤ stop := by
    intro stop hstop
    rw [h.firstEnd?_eq, List.findSome?_eq_some_iff] at hstop
    obtain ⟨earlier, literal, later, hliterals, hfound, hearlier⟩ := hstop
    have hstarts : literal <+: text.toList := by
      by_cases hstarts : literal <+: text.toList
      · exact hstarts
      · rw [if_neg hstarts] at hfound
        cases hfound
    have hlength : literal.length = stop := by
      rw [if_pos hstarts] at hfound
      exact Option.some.inj hfound
    have hmem : literal ∈ literals := by
      rw [hliterals]
      exact List.mem_append_right _ List.mem_cons_self
    refine ⟨literal, hmem, hstarts, hlength, ?_⟩
    intro other hother hprefix
    rw [hliterals] at hother hsorted
    rcases List.mem_append.mp hother with hother | hother
    · -- The text starts with none of the literals that are tried before.
      have hnone := hearlier other hother
      rw [if_pos hprefix] at hnone
      cases hnone
    · rcases List.mem_cons.mp hother with rfl | hother
      · exact Nat.le_of_eq hlength
      · have hle := (List.pairwise_cons.mp (List.pairwise_append.mp hsorted).2.1).1 other hother
        omega
  constructor
  · exact hlongest
  · rintro ⟨literal, hliteral, hstarts, hlength, hmost⟩
    cases hfirst : pattern.firstEnd? text with
    | none => exact absurd hstarts ((h.firstEnd?_eq_none_iff text).mp hfirst literal hliteral)
    | some found =>
      obtain ⟨other, hother, hprefix, hfound, hall⟩ := hlongest hfirst
      have hle := hmost other hother hprefix
      have hge := hall literal hliteral hstarts
      have hsame : found = stop := by omega
      rw [hsame]

end Pattern

end Regex

end EditorBridge
