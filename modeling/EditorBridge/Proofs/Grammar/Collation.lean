import EditorBridge.Grammar.Keywords
/-!
Collation orders texts totally, for it compares lists of weights one after the other, and no two texts have
the same place.  So the symbols of a grammar are tried from the longest to the shortest, and what is sorted does
not show the order in which it was given.
-/

set_option autoImplicit false

namespace EditorBridge

namespace Collation

theorem lexicographic_eq (first second : List Nat) :
    lexicographic first second = List.compareLex Ord.compare first second := by
  induction first generalizing second with
  | nil => cases second <;> rfl
  | cons a first ih =>
    cases second with
    | nil => rfl
    | cons b second =>
      rw [lexicographic, ih, List.compareLex_cons_cons]

instance : Std.TransCmp lexicographic := by
  have hsame : lexicographic = List.compareLex Ord.compare := by
    funext first second
    exact lexicographic_eq first second
  rw [hsame]
  infer_instance

theorem lexicographic_swap (first second : List Nat) :
    lexicographic first second = (lexicographic second first).swap :=
  Std.OrientedCmp.eq_swap

theorem lexicographic_trans {first second third : List Nat}
    (hfirst : (lexicographic first second).isLE = true)
    (hsecond : (lexicographic second third).isLE = true) : (lexicographic first third).isLE = true :=
  Std.TransCmp.isLE_trans hfirst hsecond

/-- Texts compared by their weights are ordered as the lists of weights are. -/
instance transCmp_weights (weight : Char → Nat) :
    Std.TransCmp fun a b : String => lexicographic (a.toList.map weight) (b.toList.map weight) where
  eq_swap := lexicographic_swap _ _
  isLE_trans := lexicographic_trans

instance : Std.TransCmp compare :=
  inferInstanceAs (Std.TransCmp (compareLex
    (fun a b : String => lexicographic (a.toList.map primary) (b.toList.map primary))
    (compareLex
      (fun a b : String => lexicographic (a.toList.map tertiary) (b.toList.map tertiary))
      (fun a b : String => lexicographic (a.toList.map Char.toNat) (b.toList.map Char.toNat)))))

theorem atMost_eq_isLE (a b : String) : atMost a b = (compare a b).isLE := by
  rw [atMost]
  cases compare a b <;> rfl

theorem atMost_trans (a b c : String) (hab : atMost a b = true) (hbc : atMost b c = true) :
    atMost a c = true := by
  rw [atMost_eq_isLE] at hab hbc ⊢
  exact Std.TransCmp.isLE_trans hab hbc

theorem atMost_total (a b : String) : atMost a b = true ∨ atMost b a = true := by
  have hswap : compare a b = (compare b a).swap := Std.OrientedCmp.eq_swap
  rw [atMost_eq_isLE, atMost_eq_isLE, hswap]
  cases compare b a <;> simp

/-! ## Sorting -/

theorem eq_of_lexicographic_eq {first second : List Nat} (h : lexicographic first second = .eq) :
    first = second := by
  rw [lexicographic_eq] at h
  exact Std.LawfulEqCmp.eq_of_compare h

/-- The last comparison, by code points, tells any two texts apart. -/
theorem eq_of_compare_eq {a b : String} (h : compare a b = .eq) : a = b := by
  rw [compare, Ordering.then_eq_eq, Ordering.then_eq_eq] at h
  have hcodes := eq_of_lexicographic_eq h.2.2
  have hcharacters := (List.map_inj_right fun _ _ => Char.toNat_inj.mp).mp hcodes
  exact String.toList_inj.mp hcharacters

theorem atMost_antisymm (a b : String) (hab : atMost a b = true) (hba : atMost b a = true) : a = b := by
  have hswap : compare a b = (compare b a).swap := Std.OrientedCmp.eq_swap
  apply eq_of_compare_eq
  rw [atMost_eq_isLE] at hab hba
  rw [hswap] at hab ⊢
  cases hcompare : compare b a with
  | eq => rfl
  | lt | gt => simp [hcompare] at hab hba

/-- The one of two texts that may stand first does so, and stands strictly first if they differ. -/
theorem compare_eq_lt {a b : String} (h : atMost a b = true) (hne : a ≠ b) : compare a b = .lt := by
  rw [atMost_eq_isLE] at h
  cases hcompare : compare a b with
  | lt => rfl
  | eq => exact absurd (eq_of_compare_eq hcompare) hne
  | gt => simp [hcompare] at h

theorem atMost_or_atMost (a b : String) : (atMost a b || atMost b a) = true := by
  rw [Bool.or_eq_true]
  exact atMost_total a b

theorem pairwise_sort (texts : List String) :
    (sort texts).Pairwise fun first second => atMost first second = true :=
  List.pairwise_mergeSort atMost_trans atMost_or_atMost texts

theorem mem_sort {texts : List String} {text : String} : text ∈ sort texts ↔ text ∈ texts :=
  (List.mergeSort_perm texts atMost).mem_iff

/-- Different texts are sorted strictly. -/
theorem pairwise_sort_of_nodup {texts : List String} (h : texts.Nodup) :
    (sort texts).Pairwise fun first second => compare first second = .lt := by
  have hnodup : (sort texts).Nodup := (List.mergeSort_perm texts atMost).nodup_iff.mpr h
  exact (pairwise_sort texts).imp₂ (fun _ _ hle hne => compare_eq_lt hle hne) hnodup

/-- A list that is sorted by an order in which any two texts differ does not show in which order the texts were
given. -/
theorem mergeSort_eq_of_perm {le : String → String → Bool}
    (htrans : ∀ a b c, le a b = true → le b c = true → le a c = true)
    (htotal : ∀ a b, (le a b || le b a) = true)
    (hantisymm : ∀ a b, le a b = true → le b a = true → a = b) {texts others : List String}
    (h : texts.Perm others) : texts.mergeSort le = others.mergeSort le := by
  have hperm : (texts.mergeSort le).Perm (others.mergeSort le) :=
    (List.mergeSort_perm texts le).trans (h.trans (List.mergeSort_perm others le).symm)
  exact hperm.eq_of_pairwise (fun a b _ _ => hantisymm a b) (List.pairwise_mergeSort htrans htotal texts)
    (List.pairwise_mergeSort htrans htotal others)

theorem sort_eq_of_perm {texts others : List String} (h : texts.Perm others) : sort texts = sort others :=
  mergeSort_eq_of_perm atMost_trans atMost_or_atMost atMost_antisymm h

end Collation

namespace Keywords

theorem longerFirst_iff {a b : String} :
    longerFirst a b = true ↔ b.length < a.length ∨ a.length = b.length ∧ Collation.atMost a b = true := by
  simp [longerFirst]

theorem longerFirst_trans (a b c : String) (hab : longerFirst a b = true) (hbc : longerFirst b c = true) :
    longerFirst a c = true := by
  rw [longerFirst_iff] at hab hbc ⊢
  rcases hab with hab | ⟨hab, hfirst⟩
  · left
    omega
  · rcases hbc with hbc | ⟨hbc, hsecond⟩
    · left
      omega
    · right
      exact ⟨hab.trans hbc, Collation.atMost_trans a b c hfirst hsecond⟩

theorem longerFirst_total (a b : String) : (longerFirst a b || longerFirst b a) = true := by
  rw [Bool.or_eq_true, longerFirst_iff, longerFirst_iff]
  have horder := Collation.atMost_total a b
  by_cases hlength : a.length = b.length
  · rw [hlength]
    simpa using horder
  · omega

theorem mem_tried {symbols : List String} {symbol : String} : symbol ∈ tried symbols ↔ symbol ∈ symbols :=
  (List.mergeSort_perm symbols longerFirst).mem_iff

/-- No symbol is tried before a longer one. -/
theorem pairwise_tried (symbols : List String) :
    (tried symbols).Pairwise fun first second => second.length ≤ first.length := by
  have hsorted := List.pairwise_mergeSort longerFirst_trans longerFirst_total symbols
  apply hsorted.imp
  intro first second hfirst
  rw [longerFirst_iff] at hfirst
  omega

theorem longerFirst_antisymm (a b : String) (hab : longerFirst a b = true) (hba : longerFirst b a = true) :
    a = b := by
  rw [longerFirst_iff] at hab hba
  have hfirst : Collation.atMost a b = true := by
    rcases hab with hab | hab
    · omega
    · exact hab.2
  have hsecond : Collation.atMost b a = true := by
    rcases hba with hba | hba
    · omega
    · exact hba.2
  exact Collation.atMost_antisymm a b hfirst hsecond

/-- The pattern of symbols does not show in which order the symbols were given. -/
theorem symbolsPattern_eq_of_perm {symbols others : List String} (h : symbols.Perm others) :
    symbolsPattern symbols = symbolsPattern others := by
  have htried : tried symbols = tried others :=
    Collation.mergeSort_eq_of_perm longerFirst_trans longerFirst_total longerFirst_antisymm h
  rw [symbolsPattern, symbolsPattern, htried, h.isEmpty_eq]

theorem mem_words_ofLiterals {literals : List String} {literal : String} :
    literal ∈ (ofLiterals literals).words ↔ literal ∈ literals ∧ isWord literal = true := by
  rw [ofLiterals, Collation.mem_sort, List.mem_filter]

theorem mem_symbols_ofLiterals {literals : List String} {literal : String} :
    literal ∈ (ofLiterals literals).symbols ↔ literal ∈ literals ∧ isWord literal = false := by
  rw [ofLiterals, Collation.mem_sort, List.mem_filter, Bool.not_eq_true']

theorem ofLiterals_eq_of_perm {literals others : List String} (h : literals.Perm others) :
    ofLiterals literals = ofLiterals others := by
  rw [ofLiterals, ofLiterals, Collation.sort_eq_of_perm (h.filter isWord),
    Collation.sort_eq_of_perm (h.filter fun literal => !isWord literal)]

end Keywords

end EditorBridge
