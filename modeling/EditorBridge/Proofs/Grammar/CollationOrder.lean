import EditorBridge.Proofs.Grammar.Collation
/-!
Collation as an order of texts.  No two texts have the same place, and a text stands before all its extensions, for
lists of weights are compared as words are in a dictionary.  So there is one way to sort a list
(`collation_total`).
-/

set_option autoImplicit false

namespace EditorBridge.Collation

/-! ## Lists of weights -/

theorem lexicographic_append_left (shared first second : List Nat) :
    lexicographic (shared ++ first) (shared ++ second) = lexicographic first second := by
  induction shared with
  | nil => rfl
  | cons weight shared ih => simp [lexicographic, ih]

theorem lexicographic_append_of_ne_nil (weights : List Nat) {more : List Nat} (h : more ≠ []) :
    lexicographic weights (weights ++ more) = .lt := by
  have hshared := lexicographic_append_left weights [] more
  rw [List.append_nil] at hshared
  rw [hshared]
  cases more with
  | nil => contradiction
  | cons weight more => rfl

theorem then_eq_left {first second : Ordering} (h : first ≠ .eq) : first.then second = first := by
  cases first with
  | eq => contradiction
  | lt | gt => rfl

theorem lexicographic_cons_of_ne {a b : Nat} (h : a ≠ b) (first second : List Nat) :
    lexicographic (a :: first) (b :: second) = Ord.compare a b :=
  then_eq_left fun heq => h (Nat.compare_eq_eq.mp heq)

/-! ## The order of texts -/

/-- A comparison by which exactly one of two different texts comes first. -/
structure StrictTotal (order : String → String → Ordering) : Prop where
  eq_iff : ∀ a b, order a b = .eq ↔ a = b
  swap : ∀ a b, order b a = (order a b).swap
  lt_trans : ∀ a b c, order a b = .lt → order b c = .lt → order a c = .lt

theorem strictTotal_compare : StrictTotal compare where
  eq_iff := by
    intro a b
    refine ⟨eq_of_compare_eq, ?_⟩
    rintro rfl
    exact Std.ReflCmp.compare_self
  swap _ _ := Std.OrientedCmp.eq_swap
  lt_trans _ _ _ hab hbc := Std.TransCmp.lt_trans hab hbc

/-- The first weights decide already, for those of a text are the beginning of those of its extension. -/
theorem compare_append_of_ne_empty (text : String) {more : String} (h : more ≠ "") :
    compare text (text ++ more) = .lt := by
  have hmore : more.toList.map primary ≠ [] := by
    rw [ne_eq, List.map_eq_nil_iff, String.toList_eq_nil_iff]
    exact h
  have hfirst := lexicographic_append_of_ne_nil (text.toList.map primary) hmore
  rw [compare, String.toList_append, List.map_append, hfirst]
  rfl

/-- A list of texts none of which comes before an earlier one. -/
def Ascending (texts : List String) : Prop :=
  texts.Pairwise fun first second => compare first second ≠ .gt

theorem ascending_iff {texts : List String} :
    Ascending texts ↔ texts.Pairwise fun first second => atMost first second = true := by
  simp [Ascending, atMost]

theorem ascending_sort (texts : List String) : Ascending (sort texts) :=
  ascending_iff.mpr (pairwise_sort texts)

theorem eq_sort_of_ascending {texts others : List String} (hperm : others.Perm texts)
    (h : Ascending others) : others = sort texts := by
  have hsorted : others.Perm (sort texts) := hperm.trans (List.mergeSort_perm texts atMost).symm
  exact hsorted.eq_of_pairwise (fun a b _ _ => atMost_antisymm a b) (ascending_iff.mp h)
    (pairwise_sort texts)

/-- **Collation is a strict total order in which a text comes before all its extensions**, and sorting gives the
one permutation of the texts that ascends in it. -/
theorem collation_total :
    StrictTotal compare ∧
    (∀ text more, more ≠ "" → compare text (text ++ more) = .lt) ∧
    ∀ texts, (sort texts).Perm texts ∧ Ascending (sort texts) ∧
      ∀ others : List String, others.Perm texts → Ascending others → others = sort texts := by
  refine ⟨strictTotal_compare, fun text more => compare_append_of_ne_empty text, ?_⟩
  intro texts
  exact ⟨List.mergeSort_perm texts atMost, ascending_sort texts, fun others => eq_sort_of_ascending⟩

/-- Operators that extend each other are sorted one way. -/
theorem collation_total_operators :
    compare "=" "==" = .lt ∧ ["=", "==", "=>"].Perm ["==", "=", "=>"] ∧ Ascending ["=", "==", "=>"] ∧
      sort ["==", "=", "=>"] = ["=", "==", "=>"] := by
  have hperm : ["=", "==", "=>"].Perm ["==", "=", "=>"] := List.Perm.swap _ _ _
  have hascending : Ascending ["=", "==", "=>"] := by
    unfold Ascending
    decide
  exact ⟨collation_total.2.1 "=" "=" (by decide), hperm, hascending,
    ((collation_total.2.2 ["==", "=", "=>"]).2.2 _ hperm hascending).symm⟩

end EditorBridge.Collation
