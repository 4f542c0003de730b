import Mathlib.Data.List.Infix
/-!
First occurrences of one text in another: a text splits around the first place where the one that is
sought starts, if there is such a place.
-/

set_option autoImplicit false

namespace EditorBridge.Text

variable {α : Type}

/-- A text splits around the first occurrence of another one. -/
structure FirstOccurrence (sought text before after : List α) : Prop where
  eq_append : text = before ++ (sought ++ after)
  /-- The text that is sought starts at no earlier place. -/
  first : ∀ place < before.length, ¬ sought <+: text.drop place

namespace FirstOccurrence

variable {sought text before after : List α}

theorem here (sought after : List α) : FirstOccurrence sought (sought ++ after) [] after :=
  ⟨rfl, fun _ h => absurd h (Nat.not_lt_zero _)⟩

theorem later {c : α} (hc : ¬ sought <+: c :: text) (h : FirstOccurrence sought text before after) :
    FirstOccurrence sought (c :: text) (c :: before) after where
  eq_append := by rw [h.eq_append, List.cons_append]
  first place hplace := by
    cases place with
    | zero => exact hc
    | succ place => exact h.first place (Nat.lt_of_succ_lt_succ hplace)

/-- Where the text does not start with the one that is sought, the occurrence is one in the rest. -/
theorem of_later {c : α} (hc : ¬ sought <+: c :: text)
    (h : FirstOccurrence sought (c :: text) before after) :
    ∃ rest, before = c :: rest ∧ FirstOccurrence sought text rest after := by
  cases before with
  | nil => exact absurd ⟨after, h.eq_append.symm⟩ hc
  | cons first rest =>
    have heq := h.eq_append
    rw [List.cons_append] at heq
    obtain ⟨rfl, htext⟩ := List.cons.inj heq
    exact ⟨rest, rfl, htext, fun place hplace =>
      h.first (place + 1) (Nat.succ_lt_succ hplace)⟩

theorem isPrefix_drop (h : FirstOccurrence sought text before after) :
    sought <+: text.drop before.length := by
  rw [h.eq_append, List.drop_left]
  exact List.prefix_append sought after

theorem length_eq (h : FirstOccurrence sought text before after) :
    text.length = before.length + sought.length + after.length := by
  rw [h.eq_append, List.length_append, List.length_append, Nat.add_assoc]

end FirstOccurrence

/-- A text in which another one occurs has a first occurrence of it. -/
theorem exists_firstOccurrence {sought text : List α} (h : sought <:+: text) :
    ∃ before after, FirstOccurrence sought text before after := by
  induction text with
  | nil =>
    rw [List.infix_nil.mp h]
    exact ⟨[], [], .here [] []⟩
  | cons c text ih =>
    by_cases hc : sought <+: c :: text
    · obtain ⟨after, hafter⟩ := hc
      rw [← hafter]
      exact ⟨[], after, .here sought after⟩
    · have hrest : sought <:+: text := by
        rcases List.infix_cons_iff.mp h with hstarts | hrest
        · exact absurd hstarts hc
        · exact hrest
      obtain ⟨before, after, hfirst⟩ := ih hrest
      exact ⟨c :: before, after, hfirst.later hc⟩

theorem not_isPrefix_drop_of_not_infix {sought text : List α} (h : ¬ sought <:+: text) (place : Nat) :
    ¬ sought <+: text.drop place := by
  intro hstarts
  exact h (hstarts.isInfix.trans (List.drop_suffix place text).isInfix)

/-! ## Searching -/

section Search

variable [DecidableEq α] {sought text before after : List α}

/-- What follows the first occurrence of one text in another. -/
def afterFirst? (sought : List α) : List α → Option (List α)
  | [] => if sought.isEmpty then some [] else none
  | c :: rest =>
    if sought <+: c :: rest then some ((c :: rest).drop sought.length) else afterFirst? sought rest

theorem afterFirst?_of_first (h : FirstOccurrence sought text before after) :
    afterFirst? sought text = some after := by
  induction text generalizing before with
  | nil =>
    obtain ⟨hbefore, hrest⟩ := List.append_eq_nil_iff.mp h.eq_append.symm
    obtain ⟨rfl, rfl⟩ := List.append_eq_nil_iff.mp hrest
    rfl
  | cons c rest ih =>
    rw [afterFirst?]
    by_cases hc : sought <+: c :: rest
    · have hbefore : before = [] := by
        cases before with
        | nil => rfl
        | cons first more => exact absurd hc (h.first 0 (Nat.succ_pos _))
      have heq := h.eq_append
      rw [hbefore, List.nil_append] at heq
      rw [if_pos hc, heq, List.drop_left]
    · obtain ⟨more, _, hlater⟩ := h.of_later hc
      rw [if_neg hc]
      exact ih hlater

theorem afterFirst?_of_not_infix (h : ¬ sought <:+: text) : afterFirst? sought text = none := by
  induction text with
  | nil =>
    cases sought with
    | nil => exact absurd List.nil_infix h
    | cons _ _ => rfl
  | cons c rest ih =>
    rw [afterFirst?, if_neg fun hc => h hc.isInfix]
    exact ih fun hrest => h (List.infix_cons hrest)

/-- Characters that the text sought does not start with can be passed over. -/
theorem afterFirst?_append {first : α} {taken : List α} (h : first ∉ taken) (sought text : List α) :
    afterFirst? (first :: sought) (taken ++ text) = afterFirst? (first :: sought) text := by
  induction taken with
  | nil => rfl
  | cons c taken ih =>
    rw [List.mem_cons, not_or] at h
    have hc : ¬ first :: sought <+: c :: (taken ++ text) := by
      intro hstarts
      exact h.1 (List.cons_prefix_cons.mp hstarts).1
    rw [List.cons_append, afterFirst?, if_neg hc]
    exact ih h.2

end Search

end EditorBridge.Text
