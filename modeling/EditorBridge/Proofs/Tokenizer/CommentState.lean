import EditorBridge.Proofs.Text.Occurrence
import EditorBridge.Proofs.Tokenizer.Editor
import EditorBridge.Tokenizer.Synthesis
import Mathlib.Data.List.TakeWhile
/-!
Running the state of a comment.  Characters of neither delimiter are taken in runs, the closing delimiter
leaves the state, and any other character of a delimiter is taken alone; so the state is left after the
first occurrence of the closing delimiter, and not at all if there is none.
-/

set_option autoImplicit false

namespace EditorBridge.Editor

open Text (FirstOccurrence afterFirst?)
open Tokenizer

variable {name opening closing : String} {state : State} {text : List Char}

/-! ## Steps -/

theorem runState_cons_none {c : Char} {rest : List Char} {length : Nat}
    (h : state.rules.findSome? (taken? (c :: rest)) = some (length + 1, none)) :
    runState state (c :: rest) = runState state (rest.drop length) := by
  rw [runState, h]

theorem runState_cons_some {c : Char} {rest : List Char} {length : Nat} {target : String}
    (h : state.rules.findSome? (taken? (c :: rest)) = some (length + 1, some target)) :
    runState state (c :: rest) = .left target (rest.drop length) := by
  rw [runState, h]

/-! ## The rules of a comment -/

/-- The characters of both delimiters. -/
def delimiting (opening closing : String) : List Char := opening.toList ++ closing.toList

/-- The three rules are tried one after the other: a run, the closing delimiter, one character. -/
theorem findSome?_commentRules (name opening closing : String) (text : List Char) :
    (commentRules name ⟨opening, closing⟩).rules.findSome? (taken? text) =
      (((Form.length? text (.run true (membersIn (delimiting opening closing)))).map (·, none)).or
        (((Form.length? text (.literal closing.toList)).map (·, some pop)).or
          ((Form.length? text (.one false (membersIn (delimiting opening closing)))).map
            (·, none)))) := by
  have hdelimiting : (opening ++ closing).toList = delimiting opening closing := String.toList_append
  simp only [commentRules, List.findSome?_cons, List.findSome?_nil, taken?, readForm_outside,
    readForm_inside, readForm_escape, hdelimiting, Option.bind_eq_bind, Option.bind_some]
  cases Form.length? text (.run true (membersIn (delimiting opening closing))) <;>
    cases Form.length? text (.literal closing.toList) <;>
    cases Form.length? text (.one false (membersIn (delimiting opening closing))) <;> rfl

/-- A character of neither delimiter starts a run. -/
theorem length?_run_of_not_mem {c : Char} (rest : List Char) (hc : c ∉ delimiting opening closing) :
    ∃ taken left, rest = taken ++ left ∧ (∀ d ∈ taken, d ∉ delimiting opening closing) ∧
      Form.length? (c :: rest) (.run true (membersIn (delimiting opening closing))) =
        some (taken.length + 1) := by
  have haccepts : ∀ d, accepts true (membersIn (delimiting opening closing)) d = true ↔
      d ∉ delimiting opening closing := by
    intro d
    rw [accepts_membersIn]
    simp
  let outside := accepts true (membersIn (delimiting opening closing))
  refine ⟨rest.takeWhile outside, rest.dropWhile outside, List.takeWhile_append_dropWhile.symm,
    ?_, ?_⟩
  · intro d hd
    exact (haccepts d).mp (List.mem_takeWhile_imp hd)
  · rw [Form.length?, List.takeWhile_cons_of_pos ((haccepts c).mpr hc)]
    rfl

theorem length?_run_of_mem {c : Char} {rest : List Char} (hc : c ∈ delimiting opening closing) :
    Form.length? (c :: rest) (.run true (membersIn (delimiting opening closing))) = none := by
  have hrejects : ¬ accepts true (membersIn (delimiting opening closing)) c = true := by
    rw [accepts_membersIn]
    simpa using hc
  rw [Form.length?, List.takeWhile_cons_of_neg hrejects]

theorem length?_one_of_mem {c : Char} {rest : List Char} (hc : c ∈ delimiting opening closing) :
    Form.length? (c :: rest) (.one false (membersIn (delimiting opening closing))) = some 1 := by
  have haccepts : accepts false (membersIn (delimiting opening closing)) c = true := by
    rw [accepts_membersIn]
    simpa using hc
  rw [Form.length?, if_pos haccepts]

/-! ## Runs -/

/-- The state of a comment is left after the first occurrence of the closing delimiter, and is never stuck
before the end of the text. -/
theorem runState_commentRules (hclosing : closing ≠ "") (text : List Char) :
    runState (commentRules name ⟨opening, closing⟩) text =
      match afterFirst? closing.toList text with
      | some after => .left pop after
      | none => .ended := by
  obtain ⟨first, more, hchars⟩ : ∃ first more, closing.toList = first :: more :=
    List.exists_cons_of_ne_nil fun h => hclosing (String.toList_eq_nil_iff.mp h)
  -- A run takes several characters at once, so the induction is on the length of what is left.
  induction hlength : text.length using Nat.strongRecOn generalizing text with
  | ind length ih =>
    cases text with
    | nil =>
      rw [hchars, runState]
      rfl
    | cons c rest =>
      rw [List.length_cons] at hlength
      have hrules := findSome?_commentRules name opening closing (c :: rest)
      by_cases hc : c ∈ delimiting opening closing
      · rw [length?_run_of_mem hc, length?_one_of_mem hc, Option.map_none, Option.none_or] at hrules
        by_cases hstarts : closing.toList <+: c :: rest
        · have hpop : Form.length? (c :: rest) (.literal closing.toList) = some (more.length + 1) := by
            rw [Form.length?, if_pos (List.isPrefixOf_iff_prefix.mpr hstarts), hchars,
              List.length_cons]
          rw [hpop] at hrules
          rw [runState_cons_some hrules, afterFirst?, if_pos hstarts, hchars]
          rfl
        · have hother : Form.length? (c :: rest) (.literal closing.toList) = none := by
            rw [Form.length?, if_neg fun h => hstarts (List.isPrefixOf_iff_prefix.mp h)]
          rw [hother] at hrules
          rw [runState_cons_none hrules, afterFirst?, if_neg hstarts, List.drop_zero]
          exact ih rest.length (by omega) rest rfl
      · obtain ⟨taken, left, rfl, hnew, hrun⟩ := length?_run_of_not_mem rest hc
        rw [hrun] at hrules
        -- A run cannot pass over a closing delimiter, whose first character belongs to no run.
        have hskip : first ∉ c :: taken := by
          have hfirst : first ∈ delimiting opening closing := by
            rw [delimiting, hchars]
            exact List.mem_append_right _ List.mem_cons_self
          intro hmem
          rcases List.mem_cons.mp hmem with rfl | hmem
          · exact hc hfirst
          · exact hnew first hmem hfirst
        have hafter : afterFirst? closing.toList (c :: (taken ++ left)) =
            afterFirst? closing.toList left := by
          rw [hchars]
          exact Text.afterFirst?_append hskip more left
        rw [runState_cons_none hrules, hafter, List.drop_left]
        rw [List.length_append] at hlength
        exact ih left.length (by omega) left rfl

/-- A closing delimiter is found even where a part of it comes right before it. -/
example : runState (commentRules "comment" ⟨"<!--", "-->"⟩) "a --->b".toList = .left pop ['b'] := by
  rw [runState_commentRules (by decide)]
  decide

variable {before after : List Char}

theorem runState_commentRules_of_first (hclosing : closing ≠ "")
    (h : FirstOccurrence closing.toList text before after) :
    runState (commentRules name ⟨opening, closing⟩) text = .left pop after := by
  rw [runState_commentRules hclosing, Text.afterFirst?_of_first h]

theorem runState_commentRules_of_not_infix (hclosing : closing ≠ "")
    (h : ¬ closing.toList <:+: text) :
    runState (commentRules name ⟨opening, closing⟩) text = .ended := by
  rw [runState_commentRules hclosing, Text.afterFirst?_of_not_infix h]

end EditorBridge.Editor
