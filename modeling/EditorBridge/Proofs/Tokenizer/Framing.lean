import EditorBridge.Proofs.Regex.Matching
import EditorBridge.Proofs.Tokenizer.Delimiters
import EditorBridge.Proofs.Tokenizer.Segments
/-!
Delimiters stand around every match.  In a pattern that reads as it is scanned, a text that the pattern matches
from its start to its end begins with the opening delimiter and ends with the closing one, and the two do not
overlap (`Delimiters.delimiters_frame`).
-/

set_option autoImplicit false

namespace EditorBridge

open Regex

namespace Regex.Pattern

/-! ## Where matches end -/

variable {text : List Char} {place stop : Nat}

theorem le_of_mem_repeatExactly {step : Nat → List Nat} (h : ∀ place, ∀ stop ∈ step place, place ≤ stop)
    (count : Nat) : ∀ place, ∀ stop ∈ repeatExactly step count place, place ≤ stop := by
  induction count with
  | zero => exact fun place stop hstop => Nat.le_of_eq (List.mem_singleton.mp hstop).symm
  | succ count ih =>
    intro place stop hstop
    obtain ⟨next, hnext, hstop⟩ := List.mem_flatMap.mp hstop
    exact Nat.le_trans (h place next hnext) (ih next stop hstop)

theorem le_of_mem_repeatUpTo {step : Nat → List Nat} (h : ∀ place, ∀ stop ∈ step place, place ≤ stop)
    (greedy : Bool) (count : Nat) : ∀ place, ∀ stop ∈ repeatUpTo step greedy count place, place ≤ stop := by
  induction count with
  | zero => exact fun place stop hstop => Nat.le_of_eq (List.mem_singleton.mp hstop).symm
  | succ count ih =>
    intro place stop hstop
    rcases mem_repeatUpTo_succ.mp hstop with rfl | ⟨next, hnext, hstop⟩
    · exact Nat.le_refl _
    · exact Nat.le_trans (h place next hnext) (ih next stop hstop)

/-- No match ends before it starts. -/
theorem le_of_mem_ends (pattern : Pattern) : ∀ place, ∀ stop ∈ ends text pattern place, place ≤ stop := by
  induction pattern with
  | empty => exact fun place stop hstop => Nat.le_of_eq (List.mem_singleton.mp hstop).symm
  | one chars =>
    intro place stop hstop
    rw [ends] at hstop
    split at hstop
    · exact Nat.le_of_lt (List.mem_singleton.mp hstop ▸ Nat.lt_succ_self place)
    · exact absurd hstop List.not_mem_nil
  | look look =>
    intro place stop hstop
    rw [ends] at hstop
    split at hstop
    · exact Nat.le_of_eq (List.mem_singleton.mp hstop).symm
    · exact absurd hstop List.not_mem_nil
  | concat first second ihFirst ihSecond =>
    intro place stop hstop
    obtain ⟨middle, hmiddle, hstop⟩ := List.mem_flatMap.mp hstop
    exact Nat.le_trans (ihFirst place middle hmiddle) (ihSecond middle stop hstop)
  | alternate first second ihFirst ihSecond =>
    intro place stop hstop
    exact (List.mem_append.mp hstop).elim (ihFirst place stop) (ihSecond place stop)
  | iterate least most greedy body ih =>
    intro place stop hstop
    obtain ⟨middle, hmiddle, hstop⟩ := List.mem_flatMap.mp hstop
    exact Nat.le_trans (le_of_mem_repeatExactly ih least place middle hmiddle)
      (le_of_mem_repeatUpTo ih greedy _ middle stop hstop)

/-- What a pattern matches of a text between two places. -/
theorem exists_matched {pattern : Pattern} (h : stop ∈ ends text pattern place) :
    ∃ matched, text.drop place = matched ++ text.drop stop := by
  obtain ⟨count, rfl⟩ := Nat.exists_eq_add_of_le (le_of_mem_ends pattern place stop h)
  refine ⟨(text.drop place).take count, ?_⟩
  rw [← List.drop_drop, List.take_append_drop]

end Regex.Pattern

namespace Delimiters

/-! ## Atoms and texts -/

/-- A text that atoms stand for.  Of atoms between two that are not literal any text is allowed: they can be
repeated and can be in branches. -/
inductive Spelled : List Atom → List Char → Prop
  | nil : Spelled [] []
  | literal (c : Char) {atoms : List Atom} {text : List Char} (h : Spelled atoms text) :
    Spelled (.literal c :: atoms) (c :: text)
  | other (skipped : List Char) {segment atoms : List Atom} {text : List Char}
    (hfirst : segment.head? = some .other) (hlast : segment.getLast? = some .other) (h : Spelled atoms text) :
    Spelled (segment ++ atoms) (skipped ++ text)

theorem literals_append_of_mem {atoms : List Atom} (h : .other ∈ atoms) (rest : List Atom) :
    literals (atoms ++ rest) = literals atoms := by
  induction atoms with
  | nil => exact absurd h List.not_mem_nil
  | cons atom atoms ih =>
    cases atom with
    | other => rfl
    | literal c =>
      have hmem : .other ∈ atoms := (List.mem_cons.mp h).resolve_left (by simp)
      rw [List.cons_append, literals, ih hmem, literals]

theorem trailing_append_of_mem {atoms : List Atom} (h : .other ∈ atoms) (before : List Atom) :
    trailing (before ++ atoms) = trailing atoms := by
  rw [trailing, List.reverse_append, literals_append_of_mem (List.mem_reverse.mpr h), trailing]

/-- A text that atoms stand for is literal, or framed by the literal characters around them. -/
theorem Spelled.framed {atoms : List Atom} {text : List Char} (h : Spelled atoms text) :
    atoms = text.map .literal ∨
      .other ∈ atoms ∧ ∃ middle, text = literals atoms ++ middle ++ trailing atoms := by
  induction h with
  | nil => exact Or.inl rfl
  | @literal c atoms text h ih =>
    rcases ih with rfl | ⟨hmem, middle, hframe⟩
    · exact Or.inl rfl
    · refine Or.inr ⟨List.mem_cons_of_mem _ hmem, middle, ?_⟩
      have htrailing : trailing (.literal c :: atoms) = trailing atoms :=
        trailing_append_of_mem hmem [.literal c]
      rw [htrailing, literals, List.cons_append, List.cons_append, ← hframe]
  | @other skipped segment atoms text hfirst hlast h ih =>
    have hmem : .other ∈ segment ++ atoms := List.mem_append_left _ (List.mem_of_mem_head? hfirst)
    refine Or.inr ⟨hmem, ?_⟩
    rw [literals_of_head? hfirst]
    rcases ih with rfl | ⟨hother, middle, hframe⟩
    · rw [trailing_append_literal hlast]
      exact ⟨skipped, rfl⟩
    · rw [trailing_append_of_mem hother]
      exact ⟨skipped ++ literals atoms ++ middle, by rw [hframe]; simp⟩

/-! ## Parts and matches -/

variable {text : List Char} {place stop : Nat} {flags flags' : Flags} {pattern : Regex.Pattern}

theorem spelled_of_segment {part : Ast} {segment : List Atom} (h : Segment part segment)
    (hflags : flags.caseInsensitive = false) (hresolve : part.resolve.run flags = some (pattern, flags'))
    (hstop : stop ∈ pattern.ends text place) {atoms : List Atom} {matched rest : List Char}
    (hafter : text.drop stop = matched ++ rest) (hmatched : Spelled atoms matched) :
    ∃ first, text.drop place = first ++ rest ∧ Spelled (segment ++ atoms) first := by
  cases h with
  | literal c =>
    rw [Ast.resolve] at hresolve
    obtain ⟨-, chars, hchars, rfl⟩ := Scan.resolveSet_run hresolve
    have hset : chars = .singleton c := by
      simp [Flags.literalSet, Flags.literal, Flags.fold, hflags] at hchars
      exact hchars.symm
    rw [Pattern.ends, hset] at hstop
    cases hheld : text[place]? with
    | none => simp [hheld] at hstop
    | some d =>
      rw [hheld, Option.any_some] at hstop
      split at hstop
      · rename_i hhas
        cases List.mem_singleton.mp hstop
        rw [Pattern.has_singleton] at hhas
        subst hhas
        refine ⟨d :: matched, ?_, .literal d hmatched⟩
        obtain ⟨hlt, hget⟩ := List.getElem?_eq_some_iff.mp hheld
        rw [List.drop_eq_getElem_cons hlt, hget, hafter]
        rfl
      · exact absurd hstop List.not_mem_nil
  | other _ hfirst hlast =>
    obtain ⟨skipped, hskipped⟩ := Pattern.exists_matched hstop
    refine ⟨skipped ++ matched, ?_, .other skipped hfirst hlast hmatched⟩
    rw [hskipped, hafter, List.append_assoc]

/-- What parts match one after the other is what their atoms stand for. -/
theorem spelled_of_traced {parts : List Ast} {atoms : List Atom} (h : Traced parts atoms)
    (hkeeps : ∀ part ∈ parts, part.KeepsCase) (hflags : flags.caseInsensitive = false)
    (hresolve : (Ast.resolveConcat parts).run flags = some (pattern, flags'))
    (hstop : stop ∈ pattern.ends text place) :
    ∃ matched, text.drop place = matched ++ text.drop stop ∧ Spelled atoms matched := by
  induction h generalizing flags pattern place with
  | nil =>
    obtain ⟨rfl, rfl⟩ := Prod.mk.inj (Option.some.inj hresolve)
    cases List.mem_singleton.mp hstop
    exact ⟨[], rfl, .nil⟩
  | @cons part segment parts atoms hpart hparts ih =>
    rw [Ast.resolveConcat] at hresolve
    cases hone : part.resolve.run flags with
    | none => simp [hone] at hresolve
    | some found =>
      obtain ⟨first, between⟩ := found
      cases hrest : (Ast.resolveConcat parts).run between with
      | none => simp [hone, hrest] at hresolve
      | some found =>
        obtain ⟨second, after⟩ := found
        simp [hone, hrest] at hresolve
        obtain ⟨rfl, rfl⟩ := hresolve
        obtain ⟨middle, hmiddle, hstop⟩ := List.mem_flatMap.mp hstop
        have hbetween := hkeeps part List.mem_cons_self flags between first hflags hone
        obtain ⟨matched, hmatched, hspelled⟩ :=
          ih (fun other hother => hkeeps other (List.mem_cons_of_mem _ hother)) hbetween hrest hstop
        exact spelled_of_segment hpart hflags hone hmiddle hmatched hspelled

/-- Parts are resolved alike one by one and as one expression. -/
theorem resolve_ofParts {parts : List Ast}
    (h : (Ast.ofParts parts).resolve.run flags = some (pattern, flags')) :
    ∃ chain, (Ast.resolveConcat parts).run flags = some (chain, flags') ∧
      ∀ place, chain.ends text place = pattern.ends text place := by
  rcases parts with _ | ⟨part, _ | ⟨next, parts⟩⟩
  · exact ⟨pattern, h, fun _ => rfl⟩
  · have hpart : part.resolve.run flags = some (pattern, flags') := h
    refine ⟨.concat pattern .empty, ?_, fun place => ?_⟩
    · rw [Ast.resolveConcat, StateT.run_bind, hpart]
      rfl
    · exact List.flatMap_singleton' _
  · exact ⟨pattern, h, fun _ => rfl⟩

/-! ## Delimiters -/

/-- What a pattern is scanned as. -/
def scanned (pattern : String) : Scan := (pattern.toList.foldl Scan.step {}).finish

theorem Scan.finish_alternation (scan : Scan) : scan.finish.alternation = scan.alternation := by
  unfold Scan.finish Scan.push Scan.quantify
  repeat' split
  all_goals rfl

/-- A match of a pattern that reads as it is scanned is what the atoms stand for. -/
theorem spelled_of_match {source text : String} (hspells : Spells source pattern)
    (hagrees : readsAlike source = true) (hmatch : text.toList.length ∈ pattern.ends text.toList 0) :
    (source.toList.foldl Scan.step {}).alternation = true ∨ (source.toList.foldl Scan.step {}).Ready ∧
      Spelled (source.toList.foldl Scan.step {}).atoms.reverse text.toList := by
  obtain ⟨ast, hparse, hresolved⟩ := Option.bind_eq_some_iff.mp hspells
  obtain ⟨⟨_, flags⟩, hresolve, rfl⟩ := Option.map_eq_some_iff.mp hresolved
  refine (traced_of_parse hparse hagrees).imp id ?_
  rintro ⟨hready, parts, rfl, htraced, hkeeps⟩
  obtain ⟨chain, hchain, hends⟩ := resolve_ofParts hresolve
  rw [← hends] at hmatch
  obtain ⟨matched, hmatched, hspelled⟩ := spelled_of_traced htraced hkeeps rfl hchain hmatch
  rw [List.drop_zero, List.drop_length, List.append_nil] at hmatched
  exact ⟨hready, hmatched ▸ hspelled⟩

/-- The pattern of letters `a` and `b` between the marks of a comment. -/
def markup : Regex.Pattern :=
  Pattern.afterLiteral ['<', '!', '-', '-'] (.concat
    (.iterate 0 Option.none true
      (.alternate (.one (.singleton 'a')) (.alternate (.one (.singleton 'b')) (.one []))))
    (Pattern.afterLiteral ['-', '-', '>'] .empty))

/-- **Delimiters stand around every match**: in a pattern that reads as it is scanned, a text that is matched
from its start to its end begins with the opening delimiter and ends with the closing one, with anything
between them; and where all atoms are literal the text is the opening delimiter. -/
theorem delimiters_frame {source text : String} (hspells : Spells source pattern)
    (hagrees : readsAlike source = true) (hmatch : text.toList.length ∈ pattern.ends text.toList 0) :
    (∃ middle, text = (ofPattern source).opening ++ middle ++ (ofPattern source).closing) ∧
      ((ofPattern source).opening ≠ "" → .other ∉ (scanned source).atoms →
        text = (ofPattern source).opening) := by
  rcases spelled_of_match hspells hagrees hmatch with halternation | ⟨hready, hspelled⟩
  · have hnone : ofPattern source = none := by
      rw [ofPattern]
      exact if_pos ((Scan.finish_alternation _).trans halternation)
    rw [hnone]
    exact ⟨⟨text, by simp [none]⟩, fun hopening => absurd rfl hopening⟩
  · have hscanned : (scanned source).atoms = (source.toList.foldl Scan.step {}).atoms := by
      rw [scanned, hready.finish_eq]
    rw [hscanned, ← List.mem_reverse]
    generalize hatoms : (source.toList.foldl Scan.step {}).atoms.reverse = atoms at hspelled
    rw [ofPattern_of_ready hready hatoms]
    rcases hspelled.framed with rfl | ⟨hmem, middle, hframe⟩
    · rw [literals_map, String.ofList_toList, if_neg (by simp)]
      exact ⟨⟨"", by simp⟩, fun _ _ => rfl⟩
    · rw [if_pos hmem]
      refine ⟨⟨String.ofList middle, ?_⟩, fun _ hnot => absurd hmem hnot⟩
      rw [← String.ofList_append, ← String.ofList_append, ← hframe, String.ofList_toList]

theorem delimiters_frame_markup : readsAlike "<!--(a|b)*-->" = true ∧ Spells "<!--(a|b)*-->" markup ∧
    "<!--ab-->".toList.length ∈ markup.ends "<!--ab-->".toList 0 ∧
      ∃ middle, "<!--ab-->" = (ofPattern "<!--(a|b)*-->").opening ++ middle ++
        (ofPattern "<!--(a|b)*-->").closing := by
  have hagrees : readsAlike "<!--(a|b)*-->" = true := by decide
  have hspells : Spells "<!--(a|b)*-->" markup := rfl
  have hmatch : "<!--ab-->".toList.length ∈ markup.ends "<!--ab-->".toList 0 := by decide
  exact ⟨hagrees, hspells, hmatch, (delimiters_frame hspells hagrees hmatch).1⟩

/-- The digits of a hexadecimal escape are scanned as literal atoms: a text is matched that does not end with
the closing delimiter. -/
theorem hexEscape_leaves_digits : (ofPattern "<!--(a|b)*--\\x3E").closing = "3E" ∧ ∃ pattern,
    compile "<!--(a|b)*--\\x3E" = .ok pattern ∧
      "<!--ab-->".toList.length ∈ pattern.ends "<!--ab-->".toList 0 ∧
      ¬ ∃ front, "<!--ab-->" = front ++ (ofPattern "<!--(a|b)*--\\x3E").closing := by
  have hclosing : (ofPattern "<!--(a|b)*--\\x3E").closing = "3E" := by decide
  have hspells : Spells "<!--(a|b)*--\\x3E" markup := rfl
  have hcompile : compile "<!--(a|b)*--\\x3E" = .ok markup :=
    hspells.compile_eq.trans (if_pos (by decide +kernel))
  refine ⟨hclosing, markup, hcompile, by decide, ?_⟩
  rw [hclosing]
  rintro ⟨front, hfront⟩
  have hlast := congrArg (fun text : String => text.toList.getLast?) hfront
  simp at hlast

end Delimiters

end EditorBridge
