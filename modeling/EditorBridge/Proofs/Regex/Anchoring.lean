import EditorBridge.Proofs.Regex.Literals
import EditorBridge.Tokenizer.Terminal
/-!
Patterns that are to match whole texts.  The anchored form of a pattern is read, resolved and matched by way
of the pattern inside: it matches a text just if the pattern has a match from the start of the text to its
end (`Pattern.isMatch_anchored_iff`).
-/

set_option autoImplicit false

namespace EditorBridge.Regex

/-! ## What a text spells -/

/-- The pattern that a text spells, whatever room the pattern takes. -/
def Spells (text : String) (pattern : Pattern) : Prop :=
  (parse text).bind (fun ast => ast.resolve.run' {}) = some pattern

variable {text source : String} {ast : Ast} {pattern : Pattern} {flags : Flags} {blanks : Bool}
  {names : List (List Char)}

theorem Spells.of_parse (hparse : parse text = some ast)
    (hresolve : ast.resolve.run {} = some (pattern, flags)) : Spells text pattern := by
  unfold Spells
  rw [hparse, Option.bind_some, StateT.run'_eq, hresolve]
  rfl

/-- A text that spells a pattern is refused for nothing but the room it takes. -/
theorem Spells.compile_eq (h : Spells text pattern) :
    compile text = if pattern.size ≤ Pattern.maxSize then .ok pattern else .error .tooBig := by
  rw [compile, h]

/-! ## Reading and resolving -/

/-- An expression between the start and the end of the text. -/
def Ast.anchored (ast : Ast) : Ast :=
  .concat [.assertion .startLine, .group [] ast, .assertion .endLine]

/-- A pattern between the start and the end of the text. -/
def Pattern.anchored (pattern : Pattern) : Pattern :=
  .concat (.look .startText) (.concat pattern (.concat (.look .endText) .empty))

/-- The anchored form is read from its group on. -/
theorem branches_anchored (source : String) :
    (Parser.branches (Parser.maxNesting + 1)).run { rest := (TerminalPattern.anchored source).toList } =
      (Parser.branchesRest (Parser.branches Parser.maxNesting) ((source.toList ++ [')', '$']).length + 3 + 1) []
        [.assertion .startLine]).run { rest := '(' :: '?' :: ':' :: (source.toList ++ [')', '$']) } := by
  have htext : (TerminalPattern.anchored source).toList =
      '^' :: '(' :: '?' :: ':' :: (source.toList ++ [')', '$']) := by
    rw [TerminalPattern.anchored, String.toList_append, String.toList_append]
    simp
  rw [htext]
  rfl

/-- The anchored form is read if the pattern is read up to the parenthesis that closes the group. -/
theorem parse_anchored
    (hread : (Parser.branches Parser.maxNesting).run { rest := source.toList ++ [')', '$'] } =
      some (ast, ⟨[')', '$'], blanks, names⟩))
    (hdepth : ast.depth + 2 ≤ Parser.maxNesting) :
    parse (TerminalPattern.anchored source) = some ast.anchored := by
  have hwhole : (Parser.branches (Parser.maxNesting + 1)).run
      { rest := (TerminalPattern.anchored source).toList } = some (ast.anchored, ⟨[], false, names⟩) := by
    rw [branches_anchored, Parser.branchesRest_group hread]
    rfl
  have hnested : ast.anchored.depth ≤ Parser.maxNesting := by
    simp only [Ast.anchored, Ast.depth, Ast.depthList]
    omega
  rw [parse, hwhole]
  simp only [Option.bind_eq_bind, Option.bind_some]
  simp [hnested]

/-- The anchored form is refused if the pattern takes in the parenthesis that is to close the group. -/
theorem parse_anchored_of_taken
    (hread : (Parser.branches Parser.maxNesting).run { rest := source.toList ++ [')', '$'] } =
      some (ast, ⟨[], blanks, names⟩)) : parse (TerminalPattern.anchored source) = none := by
  rw [parse, branches_anchored, Parser.branchesRest_group_open hread]
  rfl

theorem resolve_anchored (h : ast.resolve.run {} = some (pattern, flags)) :
    ast.anchored.resolve.run {} = some (pattern.anchored, {}) := by
  have hgroup : (Ast.group [] ast).resolve.run {} = some (pattern, {}) := by
    have hopen : (Ast.group [] ast).resolve.run {} = (do
        let pattern ← ast.resolve
        set ({} : Flags)
        pure pattern : Resolution Pattern).run {} := by
      rw [Ast.resolve]
      rfl
    rw [hopen, StateT.run_bind, h]
    rfl
  have hstart : (Ast.assertion .startLine).resolve.run {} = some (.look .startText, {}) := rfl
  rw [Ast.anchored, Ast.resolve, Ast.resolveConcat, StateT.run_bind, hstart]
  simp only [Option.bind_eq_bind, Option.bind_some]
  rw [Ast.resolveConcat]
  simp only [StateT.run_bind, hgroup, Option.bind_eq_bind, Option.bind_some]
  rfl

theorem Spells.anchored
    (hread : (Parser.branches Parser.maxNesting).run { rest := source.toList ++ [')', '$'] } =
      some (ast, ⟨[')', '$'], blanks, names⟩))
    (hdepth : ast.depth + 2 ≤ Parser.maxNesting)
    (hresolve : ast.resolve.run {} = some (pattern, flags)) :
    Spells (TerminalPattern.anchored source) pattern.anchored :=
  .of_parse (parse_anchored hread hdepth) (resolve_anchored hresolve)

/-! ## Matching -/

namespace Pattern

variable {chars : List Char} {place : Nat}

theorem ends_startText (h : place ≤ chars.length) :
    ends chars (.look .startText) place = if place = 0 then [0] else [] := by
  cases place with
  | zero => rfl
  | succ place =>
    have hheld : before chars (place + 1) = some chars[place] := List.getElem?_eq_getElem h
    rw [ends, hheld]
    rfl

theorem ends_endText (h : place ≤ chars.length) :
    ends chars (.look .endText) place = if place = chars.length then [place] else [] := by
  rw [ends]
  by_cases hend : place = chars.length
  · have hnone : chars[place]? = none := List.getElem?_eq_none_iff.mpr (Nat.le_of_eq hend.symm)
    rw [hnone, if_pos hend]
    rfl
  · have hlt : place < chars.length := by omega
    rw [List.getElem?_eq_getElem hlt, if_neg hend]
    rfl

/-- An anchored pattern matches a text just if the pattern can match all of it. -/
theorem isMatch_anchored_iff (pattern : Pattern) (text : String) :
    pattern.anchored.isMatch text = true ↔
      text.toList.length ∈ pattern.ends text.toList 0 := by
  generalize hchars : text.toList = chars
  have hbounded := (follows_ends chars pattern).bounded 0 (Nat.zero_le _)
  -- Only the start of the text has a match of the first anchor, only its end one of the second.
  have hmem : ∀ place ≤ chars.length, ∀ stop, stop ∈ ends chars pattern.anchored place ↔
      place = 0 ∧ stop = chars.length ∧ stop ∈ ends chars pattern 0 := by
    intro place hplace stop
    rw [anchored, ends, ends_startText hplace]
    by_cases hstart : place = 0
    · rw [if_pos hstart, List.flatMap_cons, List.flatMap_nil, List.append_nil, ends, List.mem_flatMap]
      constructor
      · rintro ⟨middle, hmiddle, hstop⟩
        rw [ends, ends_endText (hbounded middle hmiddle), List.mem_flatMap] at hstop
        obtain ⟨last, hlast, hstop⟩ := hstop
        split at hlast
        · rename_i hend
          have hsame : stop = last := List.mem_singleton.mp hstop
          have hheld : last = middle := List.mem_singleton.mp hlast
          rw [hsame, hheld]
          exact ⟨hstart, hend, hmiddle⟩
        · exact absurd hlast List.not_mem_nil
      · rintro ⟨_, hend, hstop⟩
        refine ⟨stop, hstop, ?_⟩
        rw [ends, ends_endText (hbounded stop hstop), if_pos hend]
        simp [ends]
    · rw [if_neg hstart]
      simp [hstart]
  rw [isMatch_iff, hchars]
  constructor
  · rintro ⟨place, hplace, hends⟩
    obtain ⟨stop, hstop⟩ := List.exists_mem_of_ne_nil _ hends
    obtain ⟨_, hend, hmatch⟩ := (hmem place hplace stop).mp hstop
    rwa [hend] at hmatch
  · intro hmatch
    refine ⟨0, Nat.zero_le _, List.ne_nil_of_mem ((hmem 0 (Nat.zero_le _) _).mpr ⟨rfl, rfl, hmatch⟩)⟩

end Pattern

end EditorBridge.Regex
