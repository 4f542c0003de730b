import EditorBridge.Proofs.Regex.Matching
import EditorBridge.Regex.Compile
import EditorBridge.Tokenizer.Escape
/-!
Literal text in patterns: read from its escaped form, resolved, and matched.  Each character of an
escaped literal is one part of the branch being read, whatever follows it; so literals can be read off
the front of a pattern one after the other.
-/

set_option autoImplicit false

namespace EditorBridge

theorem Pattern.length_le_escaped (literal : List Char) :
    literal.length ≤ (literal.flatMap escapeChar).length := by
  induction literal with
  | nil => exact Nat.le_refl _
  | cons c literal ih =>
    have hone : 1 ≤ (escapeChar c).length := by
      rw [escapeChar]
      split <;> simp
    rw [List.flatMap_cons, List.length_append, List.length_cons]
    omega

namespace Regex

/-- The part of an expression that a character stands for. -/
def Ast.ofChar (c : Char) : Ast := .literal ⟨c, false⟩

/-! ## Reading -/

namespace Parser

variable {inner : Parser Ast} {steps : Nat} {before parts : List Ast} {rest : List Char}

theorem skipBlanks_run (rest : List Char) :
    skipBlanks.run { rest := rest } = some ((), { rest := rest }) := rfl

theorem peek_run (rest : List Char) :
    peek.run { rest := rest } = some (rest.head?, { rest := rest }) := rfl

theorem current_run (c : Char) (rest : List Char) :
    current.run { rest := c :: rest } = some (c, { rest := c :: rest }) := rfl

theorem branchesRest_plain {c : Char} (hc : c ∉ EditorBridge.Pattern.metacharacters) :
    (branchesRest inner (steps + 1) before parts).run { rest := c :: rest } =
      (branchesRest inner steps before (.ofChar c :: parts)).run { rest := rest } := by
  simp only [EditorBridge.Pattern.metacharacters, List.mem_cons, List.not_mem_nil, or_false,
    not_or] at hc
  obtain ⟨hbackslash, hcaret, hdollar, hdot, hbar, hquestion, hstar, hplus, hopen, hclose, hbracket,
    _, hbrace, _, _⟩ := hc
  have hprimitive : primitive.run { rest := c :: rest } =
      some (.literal ⟨c, false⟩, { rest := rest }) := by
    rw [primitive, StateT.run_bind, current_run]
    simp only [Option.bind_eq_bind, Option.bind_some]
    rfl
  rw [branchesRest, StateT.run_bind, skipBlanks_run]
  simp only [Option.bind_eq_bind, Option.bind_some]
  rw [StateT.run_bind, peek_run]
  simp only [Option.bind_eq_bind, Option.bind_some, List.head?_cons]
  rw [StateT.run_bind, hprimitive]
  rfl

theorem branchesRest_escaped {c : Char} (hc : c ∈ EditorBridge.Pattern.metacharacters) :
    (branchesRest inner (steps + 1) before parts).run { rest := '\\' :: c :: rest } =
      (branchesRest inner steps before (.ofChar c :: parts)).run { rest := rest } := by
  simp only [EditorBridge.Pattern.metacharacters, List.mem_cons, List.not_mem_nil, or_false] at hc
  rcases hc with rfl | rfl | rfl | rfl | rfl | rfl | rfl | rfl | rfl | rfl | rfl | rfl | rfl | rfl |
    rfl <;> rfl

/-- An escaped literal is read character by character. -/
theorem branchesRest_literal (literal : List Char) :
    (branchesRest inner (steps + literal.length) before parts).run
        { rest := literal.flatMap EditorBridge.Pattern.escapeChar ++ rest } =
      (branchesRest inner steps before ((literal.map Ast.ofChar).reverse ++ parts)).run
        { rest := rest } := by
  induction literal generalizing parts with
  | nil => rfl
  | cons c literal ih =>
    have hrest : ((c :: literal).map Ast.ofChar).reverse ++ parts =
        (literal.map Ast.ofChar).reverse ++ (.ofChar c :: parts) := by simp
    rw [hrest, ← ih, List.flatMap_cons, List.append_assoc, List.length_cons, ← Nat.add_assoc]
    by_cases hc : c ∈ EditorBridge.Pattern.metacharacters
    · rw [EditorBridge.Pattern.escapeChar_of_mem hc]
      exact branchesRest_escaped hc
    · rw [EditorBridge.Pattern.escapeChar_of_not_mem hc]
      exact branchesRest_plain hc

/-- A group without a name or switches: its body is read, then its closing parenthesis, then what follows. -/
theorem branchesRest_opening :
    (branchesRest inner (steps + 1) before parts).run { rest := '(' :: '?' :: ':' :: rest } = (do
      let body ← inner
      if (← current) ≠ ')' then failure
      modify (fun scanner : Scanner => { scanner with ignoreBlanks := false })
      advance
      branchesRest inner steps before (.group [] body :: parts)).run { rest := rest } := rfl

theorem branchesRest_group {body : Ast} {after : List Char} {blanks : Bool} {names : List (List Char)}
    (hbody : inner.run { rest := rest } = some (body, ⟨')' :: after, blanks, names⟩)) :
    (branchesRest inner (steps + 1) before parts).run { rest := '(' :: '?' :: ':' :: rest } =
      (branchesRest inner steps before (.group [] body :: parts)).run ⟨after, false, names⟩ := by
  rw [branchesRest_opening, StateT.run_bind, hbody]
  rfl

/-- A group whose body takes in all that follows is not closed. -/
theorem branchesRest_group_open {body : Ast} {blanks : Bool} {names : List (List Char)}
    (hbody : inner.run { rest := rest } = some (body, ⟨[], blanks, names⟩)) :
    (branchesRest inner (steps + 1) before parts).run { rest := '(' :: '?' :: ':' :: rest } = none := by
  rw [branchesRest_opening, StateT.run_bind, hbody]
  rfl

/-- Reading ends at the end of the pattern and before a closing parenthesis. -/
theorem branchesRest_end (h : rest = [] ∨ ∃ after, rest = ')' :: after) :
    (branchesRest inner (steps + 1) before parts).run { rest := rest } =
      some (Ast.ofBranches (Ast.ofParts parts.reverse :: before).reverse, { rest := rest }) := by
  rcases h with rfl | ⟨after, rfl⟩ <;> rfl

end Parser

/-! ## Nesting -/

theorem Ast.depthList_append (first second : List Ast) :
    Ast.depthList (first ++ second) = max (Ast.depthList first) (Ast.depthList second) := by
  induction first with
  | nil => rw [List.nil_append, Ast.depthList, Nat.zero_max]
  | cons ast rest ih => rw [List.cons_append, Ast.depthList, Ast.depthList, ih, Nat.max_assoc]

theorem Ast.depthList_ofChar (literal : List Char) : Ast.depthList (literal.map Ast.ofChar) = 0 := by
  induction literal with
  | nil => rfl
  | cons c rest ih => rw [List.map_cons, Ast.depthList, ih]; rfl

/-! ## Resolution -/

/-- A pattern that matches a literal and then what another pattern matches. -/
def Pattern.afterLiteral (literal : List Char) (pattern : Pattern) : Pattern :=
  literal.foldr (fun c rest => .concat (.one (.singleton c)) rest) pattern

theorem Ast.resolveConcat_literal (literal : List Char) {parts : List Ast} {pattern : Pattern}
    (hparts : (Ast.resolveConcat parts).run {} = some (pattern, {})) :
    (Ast.resolveConcat (literal.map Ast.ofChar ++ parts)).run {} =
      some (pattern.afterLiteral literal, {}) := by
  induction literal with
  | nil => exact hparts
  | cons c rest ih =>
    have hchar : (Ast.ofChar c).resolve.run {} = some (.one (.singleton c), {}) := rfl
    rw [List.map_cons, List.cons_append, Ast.resolveConcat, StateT.run_bind, hchar]
    simp only [Option.bind_eq_bind, Option.bind_some]
    rw [StateT.run_bind, ih]
    rfl

/-! ## Matching -/

namespace Pattern

theorem has_singleton (c d : Char) : (CharSet.singleton c).has d = true ↔ d = c := by
  simp only [CharSet.has, CharSet.singleton, CharSet.contains_cons, CharSet.contains_nil,
    Bool.or_false, CharRange.contains_iff]
  rw [← Char.toNat_inj]
  omega

variable {text literal : List Char} {pattern : Pattern} {place : Nat}

theorem ends_afterLiteral_of_starts (h : literal <+: text.drop place) :
    ends text (pattern.afterLiteral literal) place =
      ends text pattern (place + literal.length) := by
  induction literal generalizing place with
  | nil => rfl
  | cons c rest ih =>
    obtain ⟨after, hafter⟩ := h
    have hc : text[place]? = some c := by
      rw [← List.head?_drop, ← hafter]
      rfl
    have hrest : rest <+: text.drop (place + 1) := by
      refine ⟨after, ?_⟩
      rw [← List.tail_drop, ← hafter]
      rfl
    have hplace : place + (c :: rest).length = place + 1 + rest.length := by
      rw [List.length_cons]
      omega
    rw [afterLiteral, List.foldr_cons, ends, ends, hc, Option.any_some,
      if_pos ((has_singleton c c).mpr rfl), List.flatMap_cons, List.flatMap_nil, List.append_nil, hplace]
    exact ih hrest

theorem ends_afterLiteral_of_not_starts (h : ¬ literal <+: text.drop place) :
    ends text (pattern.afterLiteral literal) place = [] := by
  induction literal generalizing place with
  | nil => exact absurd List.nil_prefix h
  | cons c rest ih =>
    rw [afterLiteral, List.foldr_cons, ends, ends]
    by_cases hc : text[place]?.any (CharSet.singleton c).has = true
    · rw [if_pos hc, List.flatMap_cons, List.flatMap_nil, List.append_nil]
      refine ih fun hrest => h ?_
      obtain ⟨after, hafter⟩ := hrest
      cases hheld : text[place]? with
      | none =>
        rw [hheld] at hc
        exact absurd hc Bool.false_ne_true
      | some d =>
        rw [hheld, Option.any_some, has_singleton] at hc
        obtain ⟨hlt, hget⟩ := List.getElem?_eq_some_iff.mp hheld
        refine ⟨after, ?_⟩
        rw [List.drop_eq_getElem_cons hlt, hget, hc, ← hafter]
        rfl
    · rw [if_neg hc, List.flatMap_nil]

end Pattern

end Regex

end EditorBridge
