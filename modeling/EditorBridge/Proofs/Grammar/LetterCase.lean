import EditorBridge.Proofs.Grammar.CollationOrder
import EditorBridge.Unicode.Lowercase
/-!
Letter case in the collation order.  The weights of characters lie in four bands, in which the two cases of an ASCII
letter share a weight; so the case of ASCII letters is looked at after all letters.  Every other letter weighs by
its code point, where its two cases lie apart, and its case can outrank the letters behind it
(`letter_case_breaks_ties`).
-/

set_option autoImplicit false

namespace EditorBridge.Collation

/-! ## The bands of weights -/

/-- The weights that characters can have.  Each kind of characters has a band of its own, and only the two cases
of a letter share a weight. -/
inductive Weighs (c : Char) : Nat → Prop
  | mark {index : Nat} : punctuation[index]? = some c → index < 32 → Weighs c (punctuationBase + index)
  | digit {value : Nat} : c.toNat = 0x30 + value → value < 10 → Weighs c (digitBase + value)
  | letter {place : Nat} : c.isAlpha = true → c.toLower.toNat = 0x61 + place → place < 26 →
    Weighs c (letterBase + place)
  | other : Weighs c (otherBase + c.toNat)

theorem ascii_of_isAlpha {c : Char} (h : c.isAlpha = true) : c.toNat < 0x80 := by
  have hupper : 'Z'.val.toNat = 0x5A := rfl
  have hlower : 'z'.val.toNat = 0x7A := rfl
  rcases Bool.or_eq_true_iff.mp h with h | h
  · have hle : c.val ≤ 'Z'.val := (of_decide_eq_true h).2
    have hcode : c.toNat ≤ 'Z'.val.toNat := UInt32.le_iff_toNat_le.mp hle
    omega
  · have hle : c.val ≤ 'z'.val := of_decide_eq_true (Bool.and_eq_true_iff.mp h).2
    have hcode : c.toNat ≤ 'z'.val.toNat := UInt32.le_iff_toNat_le.mp hle
    omega

theorem toLower_range {c : Char} (h : c.isAlpha = true) :
    0x61 ≤ c.toLower.toNat ∧ c.toLower.toNat < 0x61 + 26 := by
  refine Character.forall_ascii (p := fun c => c.isAlpha = true →
    0x61 ≤ c.toLower.toNat ∧ c.toLower.toNat < 0x61 + 26) ?_ (ascii_of_isAlpha h) h
  decide

theorem weighs_primary {c : Char} (h : Character.isWhitespace c = false) : Weighs c (primary c) := by
  unfold primary
  rw [if_neg (by simp [h])]
  cases hindex : punctuation.idxOf? c with
  | some index =>
    obtain ⟨hlt, hmark, -⟩ := List.idxOf?_eq_some_iff.mp hindex
    have hlength : punctuation.length = 32 := by decide
    exact .mark (by rw [List.getElem?_eq_getElem hlt, hmark]) (by omega)
  | none =>
    dsimp only
    split
    next hdigit =>
      have hrange := Char.isDigit_iff_toNat.mp hdigit
      have hzero : '0'.toNat = 0x30 := rfl
      have hnine : '9'.toNat = 0x39 := rfl
      exact .digit (by omega) (by omega)
    next =>
      split
      next hletter =>
        have hrange := toLower_range hletter
        have ha : 'a'.toNat = 0x61 := rfl
        exact .letter hletter (by omega) (by omega)
      next => exact .other

/-- The bands do not meet, and in each of them the weight tells the character, but for the case of a letter. -/
theorem Weighs.eq_or_toLower_eq {c d : Char} {weight other : Nat} (hc : Weighs c weight)
    (hd : Weighs d other) (heq : weight = other) :
    c = d ∨ c.isAlpha = true ∧ d.isAlpha = true ∧ c.toLower = d.toLower := by
  have hbases : punctuationBase = 16 ∧ digitBase = 64 ∧ letterBase = 80 ∧ otherBase = 128 :=
    ⟨rfl, rfl, rfl, rfl⟩
  cases hc with
  | @mark first hc =>
    cases hd with
    | @mark second hd =>
      have hindex : first = second := by omega
      rw [hindex, hd] at hc
      exact .inl (Option.some.inj hc).symm
    | digit | letter | other => omega
  | digit hc =>
    cases hd with
    | digit hd => exact .inl (Char.toNat_inj.mp (by omega))
    | mark | letter | other => omega
  | letter hletter hc =>
    cases hd with
    | letter hletter' hd => exact .inr ⟨hletter, hletter', Char.toNat_inj.mp (by omega)⟩
    | mark | digit | other => omega
  | other =>
    cases hd with
    | other => exact .inl (Char.toNat_inj.mp (by omega))
    | mark | digit | letter => omega

/-! ## Letter case -/

/-- A text with every letter in its lowercase form. -/
def lowercase (text : String) : String := String.ofList (text.toList.map Character.lowercase)

/-- A text without white space. -/
def Unspaced (text : String) : Prop := ∀ c ∈ text.toList, Character.isWhitespace c = false

instance (text : String) : Decidable (Unspaced text) := List.decidableBAll _ _

/-- The character is in ASCII or has no lowercase form but itself. -/
def AsciiCased (c : Char) : Prop := c.toNat < 0x80 ∨ Character.lowercase c = c

instance : DecidablePred AsciiCased := fun _ => instDecidableOr

/-- Two texts are compared without regard to letter case, and if case is all they differ in, the one with the
lowercase letter at the first difference comes first. -/
structure CaseBreaksTies (a b : String) : Prop where
  letters : lowercase a ≠ lowercase b → compare a b = compare (lowercase a) (lowercase b)
  ties : lowercase a = lowercase b → ∀ shared c d restA restB, a.toList = shared ++ c :: restA →
    b.toList = shared ++ d :: restB → c ≠ d →
      Character.lowercase c = c ∧ compare a b = .lt ∨ Character.lowercase d = d ∧ compare a b = .gt

theorem primary_lowercase {c : Char} (h : AsciiCased c) : primary (Character.lowercase c) = primary c := by
  have hcase : Character.lowercase c = c ∨ primary (Character.lowercase c) = primary c := by
    rcases h with hascii | hself
    · refine Character.forall_ascii (p := fun c => Character.lowercase c = c ∨
        primary (Character.lowercase c) = primary c) ?_ hascii
      decide +kernel
    · exact .inl hself
  rcases hcase with hself | hweight
  · rw [hself]
  · exact hweight

theorem lowercase_eq_of_primary_eq {c d : Char} (hc : Character.isWhitespace c = false)
    (hd : Character.isWhitespace d = false) (h : primary c = primary d) :
    Character.lowercase c = Character.lowercase d := by
  rcases (weighs_primary hc).eq_or_toLower_eq (weighs_primary hd) h with rfl | ⟨hletter, hletter', hlower⟩
  · rfl
  · rw [Character.lowercase_of_ascii (ascii_of_isAlpha hletter),
      Character.lowercase_of_ascii (ascii_of_isAlpha hletter'), hlower]

section Texts

variable {a b : String}

theorem map_primary_lowercase (h : ∀ c ∈ a.toList, AsciiCased c) :
    (lowercase a).toList.map primary = a.toList.map primary := by
  rw [lowercase, String.toList_ofList, List.map_map, List.map_eq_map_iff]
  intro c hmem
  exact primary_lowercase (h c hmem)

theorem map_lowercase_of_map_primary {first second : List Char}
    (hfirst : ∀ c ∈ first, Character.isWhitespace c = false)
    (hsecond : ∀ c ∈ second, Character.isWhitespace c = false)
    (h : first.map primary = second.map primary) :
    first.map Character.lowercase = second.map Character.lowercase := by
  induction first generalizing second with
  | nil =>
    have hnil : second = [] := List.map_eq_nil_iff.mp h.symm
    rw [hnil]
  | cons c first ih =>
    cases second with
    | nil => simp at h
    | cons d second =>
      simp only [List.map_cons, List.cons.injEq] at h ⊢
      obtain ⟨hc, hfirst⟩ := List.forall_mem_cons.mp hfirst
      obtain ⟨hd, hsecond⟩ := List.forall_mem_cons.mp hsecond
      exact ⟨lowercase_eq_of_primary_eq hc hd h.1, ih hfirst hsecond h.2⟩

theorem lowercase_eq_of_map_primary (ha : Unspaced a) (hb : Unspaced b)
    (h : a.toList.map primary = b.toList.map primary) : lowercase a = lowercase b := by
  rw [lowercase, lowercase, map_lowercase_of_map_primary ha hb h]

theorem compare_of_map_primary_ne (h : a.toList.map primary ≠ b.toList.map primary) :
    compare a b = lexicographic (a.toList.map primary) (b.toList.map primary) :=
  then_eq_left fun heq => h (eq_of_lexicographic_eq heq)

theorem compare_of_tertiary_ne {shared restA restB : List Char} {c d : Char}
    (h : a.toList.map primary = b.toList.map primary) (ha : a.toList = shared ++ c :: restA)
    (hb : b.toList = shared ++ d :: restB) (hne : tertiary c ≠ tertiary d) :
    compare a b = Ord.compare (tertiary c) (tertiary d) := by
  have hfirst : lexicographic (b.toList.map primary) (b.toList.map primary) = .eq := Std.ReflCmp.compare_self
  rw [compare, h, hfirst, ha, hb, List.map_append, List.map_append, lexicographic_append_left, List.map_cons,
    List.map_cons, lexicographic_cons_of_ne hne]
  exact then_eq_left fun heq => hne (Nat.compare_eq_eq.mp heq)

/-- An ASCII character is its own lowercase form, or an uppercase letter. -/
theorem tertiary_cases (c : Char) (h : c.toNat < 0x80) :
    (Character.lowercase c).toNat < 0x80 ∧
      (Character.lowercase c = c ∧ tertiary c = 0 ∨
        (Character.lowercase c).toNat = c.toNat + 0x20 ∧ tertiary c = 1) := by
  refine Character.forall_ascii (p := fun c => (Character.lowercase c).toNat < 0x80 ∧
    (Character.lowercase c = c ∧ tertiary c = 0 ∨
      (Character.lowercase c).toNat = c.toNat + 0x20 ∧ tertiary c = 1)) ?_ h
  decide

theorem ascii_of_lowercase_eq {c d : Char} (hc : c.toNat < 0x80) (hd : AsciiCased d)
    (h : Character.lowercase c = Character.lowercase d) : d.toNat < 0x80 := by
  rcases hd with hd | hself
  · exact hd
  · rw [← hself, ← h]
    exact (tertiary_cases c hc).1

theorem tertiary_of_lowercase_eq {c d : Char} (hc : AsciiCased c) (hd : AsciiCased d)
    (h : Character.lowercase c = Character.lowercase d) (hne : c ≠ d) :
    Character.lowercase c = c ∧ tertiary c < tertiary d ∨
      Character.lowercase d = d ∧ tertiary d < tertiary c := by
  have hascii : c.toNat < 0x80 ∧ d.toNat < 0x80 := by
    by_cases hfirst : c.toNat < 0x80
    · exact ⟨hfirst, ascii_of_lowercase_eq hfirst hd h⟩
    · have hsecond : ¬ d.toNat < 0x80 := fun hsecond => hfirst (ascii_of_lowercase_eq hsecond hc h.symm)
      have hself := hc.resolve_left hfirst
      rw [hself, hd.resolve_left hsecond] at h
      contradiction
  obtain ⟨-, hcase⟩ := tertiary_cases c hascii.1
  obtain ⟨-, hcase'⟩ := tertiary_cases d hascii.2
  rcases hcase with ⟨hself, hlow⟩ | ⟨hupper, hhigh⟩
  · rcases hcase' with ⟨hself', -⟩ | ⟨-, hhigh'⟩
    · rw [hself, hself'] at h
      contradiction
    · exact .inl ⟨hself, by omega⟩
  · rcases hcase' with ⟨hself', hlow'⟩ | ⟨hupper', -⟩
    · exact .inr ⟨hself', by omega⟩
    · rw [h] at hupper
      exact absurd (Char.toNat_inj.mp (by omega)) hne

theorem caseBreaksTies_of_asciiCased (ha : Unspaced a) (hb : Unspaced b)
    (ha' : ∀ c ∈ a.toList, AsciiCased c) (hb' : ∀ c ∈ b.toList, AsciiCased c) :
    CaseBreaksTies a b where
  letters := by
    intro hne
    have hfirst : a.toList.map primary ≠ b.toList.map primary :=
      fun heq => hne (lowercase_eq_of_map_primary ha hb heq)
    have hlower : (lowercase a).toList.map primary ≠ (lowercase b).toList.map primary := by
      rwa [map_primary_lowercase ha', map_primary_lowercase hb']
    rw [compare_of_map_primary_ne hfirst, compare_of_map_primary_ne hlower, map_primary_lowercase ha',
      map_primary_lowercase hb']
  ties := by
    intro heq shared c d restA restB hsplitA hsplitB hne
    have hfirst : a.toList.map primary = b.toList.map primary := by
      rw [← map_primary_lowercase ha', heq, map_primary_lowercase hb']
    have hletter : Character.lowercase c = Character.lowercase d := by
      have hlists := String.ofList_inj.mp heq
      rw [hsplitA, hsplitB, List.map_append, List.map_append, List.append_cancel_left_eq] at hlists
      exact (List.cons.inj hlists).1
    have hc := ha' c (by simp [hsplitA])
    have hd := hb' d (by simp [hsplitB])
    rcases tertiary_of_lowercase_eq hc hd hletter hne with ⟨hself, hlt⟩ | ⟨hself, hlt⟩
    · refine .inl ⟨hself, ?_⟩
      rw [compare_of_tertiary_ne hfirst hsplitA hsplitB (by omega), Nat.compare_eq_lt]
      exact hlt
    · refine .inr ⟨hself, ?_⟩
      rw [compare_of_tertiary_ne hfirst hsplitA hsplitB (by omega), Nat.compare_eq_gt]
      exact hlt

end Texts

/-! ## Letters beyond ASCII -/

theorem compare_of_first_ne {c d : Char} (h : primary c ≠ primary d) (x y : Char) :
    compare (String.ofList [c, x]) (String.ofList [d, y]) = Ord.compare (primary c) (primary d) := by
  have hfirst : lexicographic [primary c, primary x] [primary d, primary y] =
      Ord.compare (primary c) (primary d) := lexicographic_cons_of_ne h _ _
  rw [compare_of_map_primary_ne (by simp [h])]
  simpa using hfirst

theorem compare_of_second_ne (c : Char) {x y : Char} (h : primary x ≠ primary y) :
    compare (String.ofList [c, x]) (String.ofList [c, y]) = Ord.compare (primary x) (primary y) := by
  have hsecond : lexicographic [primary c, primary x] [primary c, primary y] =
      Ord.compare (primary x) (primary y) :=
    (lexicographic_append_left [primary c] [primary x] [primary y]).trans (lexicographic_cons_of_ne h [] [])
  rw [compare_of_map_primary_ne (by simp [h])]
  simpa using hsecond

theorem lowercase_pair (c : Char) {x : Char} (h : Character.lowercase x = x) :
    lowercase (String.ofList [c, x]) = String.ofList [Character.lowercase c, x] := by
  simp [lowercase, h]

/-- A letter and its lowercase form, each with a letter behind it, are not compared by the letters behind. -/
theorem not_caseBreaksTies_pair {c x y : Char} (hx : Character.lowercase x = x)
    (hy : Character.lowercase y = y) (hxy : primary x ≠ primary y)
    (hc : primary c ≠ primary (Character.lowercase c))
    (h : Ord.compare (primary c) (primary (Character.lowercase c)) ≠ Ord.compare (primary x) (primary y)) :
    ¬CaseBreaksTies (String.ofList [c, x]) (String.ofList [Character.lowercase c, y]) := by
  intro hties
  have hlower := lowercase_pair (Character.lowercase c) hy
  rw [Character.lowercase_lowercase] at hlower
  have hdiffers : lowercase (String.ofList [c, x]) ≠ lowercase (String.ofList [Character.lowercase c, y]) := by
    rw [lowercase_pair c hx, hlower]
    intro heq
    have hlists := String.ofList_inj.mp heq
    simp only [List.cons.injEq, true_and, and_true] at hlists
    exact hxy (congrArg primary hlists)
  have hletters := hties.letters hdiffers
  rw [lowercase_pair c hx, hlower, compare_of_first_ne hc, compare_of_second_ne _ hxy] at hletters
  exact h hletters

theorem unspaced_pair {c x : Char} (hc : Character.isWhitespace c = false)
    (hx : Character.isWhitespace x = false) : Unspaced (String.ofList [c, x]) := by
  simp [Unspaced, hc, hx]

/-- The two cases of a letter beyond ASCII lie apart, so one of them outranks a difference between the letters
behind it. -/
theorem exists_not_caseBreaksTies {c : Char} (hblank : Character.isWhitespace c = false)
    (h : ¬AsciiCased c) : ∃ a b, Unspaced a ∧ Unspaced b ∧
      (∀ d ∈ a.toList ++ b.toList, d ∈ [c, Character.lowercase c, 'a', 'b']) ∧ ¬CaseBreaksTies a b := by
  obtain ⟨hascii, hlower⟩ := not_or.mp h
  have hblank' := Character.isWhitespace_lowercase hblank
  have hne : primary c ≠ primary (Character.lowercase c) := by
    intro heq
    rcases (weighs_primary hblank).eq_or_toLower_eq (weighs_primary hblank') heq with hself | ⟨hletter, -⟩
    · exact hlower hself.symm
    · exact hascii (ascii_of_isAlpha hletter)
  rcases Nat.lt_or_gt_of_ne hne with hlt | hgt
  · refine ⟨String.ofList [c, 'b'], String.ofList [Character.lowercase c, 'a'],
      unspaced_pair hblank (by decide), unspaced_pair hblank' (by decide), by simp, ?_⟩
    refine not_caseBreaksTies_pair (by decide) (by decide) (by decide) hne ?_
    rw [Nat.compare_eq_lt.mpr hlt]
    decide
  · refine ⟨String.ofList [c, 'a'], String.ofList [Character.lowercase c, 'b'],
      unspaced_pair hblank (by decide), unspaced_pair hblank' (by decide), by simp, ?_⟩
    refine not_caseBreaksTies_pair (by decide) (by decide) (by decide) hne ?_
    rw [Nat.compare_eq_gt.mpr hgt]
    decide

/-- **Letter case only breaks ties, but for letters beyond ASCII.**  Texts without white space are compared by
their lowercase forms if every letter in them with another lowercase form is an ASCII one.  Each other letter
makes the comparison of some texts of it depend on its case before all else. -/
theorem letter_case_breaks_ties (a b : String) (ha : Unspaced a) (hb : Unspaced b) :
    ((∀ c ∈ a.toList ++ b.toList, AsciiCased c) → CaseBreaksTies a b) ∧
    ∀ c ∈ a.toList ++ b.toList, ¬AsciiCased c → ∃ a' b', Unspaced a' ∧ Unspaced b' ∧
      (∀ d ∈ a'.toList ++ b'.toList, d ∈ [c, Character.lowercase c, 'a', 'b']) ∧ ¬CaseBreaksTies a' b' := by
  have hblank : ∀ c ∈ a.toList ++ b.toList, Character.isWhitespace c = false :=
    List.forall_mem_append.mpr ⟨ha, hb⟩
  refine ⟨fun hletters => ?_, fun c hmem => exists_not_caseBreaksTies (hblank c hmem)⟩
  rw [List.forall_mem_append] at hletters
  exact caseBreaksTies_of_asciiCased ha hb hletters.1 hletters.2

/-- In a mixed text the last letter decides before the case of the second one; an accented capital letter goes
wrong in other texts. -/
theorem letter_case_breaks_ties_mixed :
    CaseBreaksTies "éAb" "éaC" ∧ compare "éAb" "éaC" = .lt ∧ ¬AsciiCased 'É' ∧ ∃ a b, ¬CaseBreaksTies a b := by
  have hall : ("éAb".toList ++ "éaC".toList).all (fun c => decide (AsciiCased c)) = true := by decide +kernel
  have hletters : ∀ c ∈ "éAb".toList ++ "éaC".toList, AsciiCased c := by
    intro c hmem
    exact of_decide_eq_true (List.all_eq_true.mp hall c hmem)
  have hlower : ¬AsciiCased 'É' := by decide +kernel
  have hties := (letter_case_breaks_ties "éAb" "éaC" (by decide) (by decide)).1 hletters
  obtain ⟨a, b, -, -, -, hfails⟩ :=
    (letter_case_breaks_ties "É" "" (by decide) (by decide)).2 'É' (by decide) hlower
  exact ⟨hties, by decide, hlower, a, b, hfails⟩

/-- The letters put `éa` before `Éb`, but the case of the first letter puts it behind. -/
theorem case_of_accented_outranks_letters :
    Unspaced "éa" ∧ Unspaced "Éb" ∧ lowercase "éa" = "éa" ∧ lowercase "Éb" = "éb" ∧
      compare "éa" "éb" = .lt ∧ compare "éa" "Éb" = .gt ∧ ¬CaseBreaksTies "éa" "Éb" := by
  have hfirst : lowercase "éa" = "éa" := by decide +kernel
  have hsecond : lowercase "Éb" = "éb" := by decide +kernel
  refine ⟨by decide, by decide, hfirst, hsecond, by decide, by decide, ?_⟩
  intro hties
  have hletters := hties.letters (by rw [hfirst, hsecond]; decide)
  rw [hfirst, hsecond] at hletters
  revert hletters
  decide

end EditorBridge.Collation
