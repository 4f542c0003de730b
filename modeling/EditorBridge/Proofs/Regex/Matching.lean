import EditorBridge.Regex.Match
/-!
What a pattern matches.  `Pattern.ends` lists the places where a match can end that starts at a given
place, the preferred one first: earlier branches before later ones, and more repetitions before fewer
just if the repetition is greedy.  The search by sets of positions finds a match exactly if there is one
in this sense (`Pattern.isMatch_iff`).
-/

set_option autoImplicit false

namespace EditorBridge.Regex

/-! ## Matches in order of preference -/

namespace Pattern

/-- The places after exactly so many repetitions. -/
def repeatExactly (step : Nat → List Nat) : Nat → Nat → List Nat
  | 0, place => [place]
  | count + 1, place => (step place).flatMap (repeatExactly step count)

/-- The places after at most so many repetitions; a greedy repetition prefers more of them. -/
def repeatUpTo (step : Nat → List Nat) (greedy : Bool) : Nat → Nat → List Nat
  | 0, place => [place]
  | count + 1, place =>
    let more := (step place).flatMap (repeatUpTo step greedy count)
    if greedy then more ++ [place] else place :: more

/-- The character before a place of a text. -/
def before (text : List Char) : Nat → Option Char
  | 0 => none
  | place + 1 => text[place]?

/-- The places where a match ends that starts at a place, the preferred one first.  Every repetition of
use takes a character, so none is repeated more often than there are characters. -/
def ends (text : List Char) : Pattern → Nat → List Nat
  | .empty, place => [place]
  | .one chars, place => if text[place]?.any chars.has then [place + 1] else []
  | .look look, place => if look.holds (before text place) text[place]? then [place] else []
  | .concat first second, place => (ends text first place).flatMap (ends text second)
  | .alternate first second, place => ends text first place ++ ends text second place
  | .iterate least most greedy body, place =>
    let more := match most with
      | some most => most - least
      | none => text.length
    (repeatExactly (ends text body) least place).flatMap (repeatUpTo (ends text body) greedy more)

/-- The end of the preferred match at the start of a text, if there is one. -/
def firstEnd? (pattern : Pattern) (text : String) : Option Nat := (pattern.ends text.toList 0).head?

end Pattern

/-! ## Sets of positions bit by bit -/

namespace Positions

theorem testBit_ofList (marks : List Bool) (place : Nat) :
    (ofList marks).testBit place = marks[place]?.getD false := by
  induction marks generalizing place with
  | nil => rw [ofList, Nat.zero_testBit, List.getElem?_nil, Option.getD_none]
  | cons marked rest ih =>
    have hhalf : ∀ n : Nat, (2 * n + marked.toNat) / 2 = n := by
      have hlt := marked.toNat_lt
      omega
    cases place with
    | zero =>
      rw [ofList, Nat.testBit_zero, List.getElem?_cons_zero, Option.getD_some]
      cases marked <;> simp [Nat.add_mod]
    | succ place =>
      rw [ofList, Nat.testBit_succ, hhalf, ih, List.getElem?_cons_succ]

theorem testBit_ofChars (text : List Char) (chars : CharSet) (place : Nat) :
    (ofChars text chars).testBit place = text[place]?.any chars.has := by
  rw [ofChars, testBit_ofList, List.getElem?_map]
  cases text[place]? <;> rfl

theorem getElem?_ofLook (look : Look) (first : Option Char) (text : List Char) {place : Nat}
    (h : place ≤ text.length) : (ofLook look first text)[place]? =
      some (look.holds (if place = 0 then first else Pattern.before text place) text[place]?) := by
  induction text generalizing first place with
  | nil =>
    have hzero : place = 0 := Nat.le_zero.mp h
    rw [hzero]
    rfl
  | cons c rest ih =>
    cases place with
    | zero => rfl
    | succ place =>
      rw [ofLook, List.getElem?_cons_succ, ih (some c) (Nat.le_of_succ_le_succ h),
        List.getElem?_cons_succ]
      cases place <;> rfl

theorem length_ofLook (look : Look) (first : Option Char) (text : List Char) :
    (ofLook look first text).length = text.length + 1 := by
  induction text generalizing first with
  | nil => rfl
  | cons c rest ih => rw [ofLook, List.length_cons, ih, List.length_cons]

theorem testBit_ofLook (look : Look) (text : List Char) (place : Nat) :
    (ofList (ofLook look none text)).testBit place = true ↔
      place ≤ text.length ∧ look.holds (Pattern.before text place) text[place]? = true := by
  rw [testBit_ofList]
  by_cases h : place ≤ text.length
  · have hbefore : (if place = 0 then none else Pattern.before text place) =
        Pattern.before text place := by
      cases place <;> rfl
    rw [getElem?_ofLook look none text h, hbefore, Option.getD_some]
    exact (and_iff_right h).symm
  · have hnone : (ofLook look none text)[place]? = none := by
      rw [List.getElem?_eq_none_iff, length_ofLook]
      omega
    simp [hnone, h]

theorem testBit_all (length place : Nat) :
    (all length).testBit place = true ↔ place ≤ length := by
  have hbit := Nat.testBit_two_pow_sub_one (length + 1) place
  rw [all]
  simp only [Nat.pow_eq]
  rw [hbit, decide_eq_true_iff]
  exact Nat.lt_succ_iff

/-! ## Repetition -/

theorem exactly_of_fixed {step : Positions → Positions} {positions : Positions}
    (h : step positions = positions) (count : Nat) : exactly step count positions = positions := by
  cases count with
  | zero => rfl
  | succ count => rw [exactly, if_pos h]

theorem exactly_succ (step : Positions → Positions) (count : Nat) (positions : Positions) :
    exactly step (count + 1) positions = exactly step count (step positions) := by
  rw [exactly]
  by_cases h : step positions = positions
  · rw [if_pos h, h, exactly_of_fixed h]
  · rw [if_neg h]

theorem upTo_of_fixed {step : Positions → Positions} {positions : Positions}
    (h : positions ||| step positions = positions) (count : Nat) :
    upTo step count positions = positions := by
  cases count with
  | zero => rfl
  | succ count => rw [upTo, if_pos h]

theorem upTo_succ (step : Positions → Positions) (count : Nat) (positions : Positions) :
    upTo step (count + 1) positions = upTo step count (positions ||| step positions) := by
  rw [upTo]
  by_cases h : positions ||| step positions = positions
  · rw [if_pos h, h, upTo_of_fixed h]
  · rw [if_neg h]

end Positions

namespace Pattern

theorem mem_repeatUpTo_succ {step : Nat → List Nat} {greedy : Bool} {count place stop : Nat} :
    stop ∈ repeatUpTo step greedy (count + 1) place ↔
      stop = place ∨ ∃ next ∈ step place, stop ∈ repeatUpTo step greedy count next := by
  rw [repeatUpTo]
  cases greedy with
  | true => simp [or_comm]
  | false => simp

theorem repeatUpTo_mono {step : Nat → List Nat} {greedy : Bool} {count place stop : Nat}
    (h : stop ∈ repeatUpTo step greedy count place) :
    stop ∈ repeatUpTo step greedy (count + 1) place := by
  induction count generalizing place with
  | zero => exact mem_repeatUpTo_succ.mpr (Or.inl (List.mem_singleton.mp h))
  | succ count ih =>
    rcases mem_repeatUpTo_succ.mp h with hsame | ⟨next, hnext, hstop⟩
    · exact mem_repeatUpTo_succ.mpr (Or.inl hsame)
    · exact mem_repeatUpTo_succ.mpr (Or.inr ⟨next, hnext, ih hstop⟩)

theorem self_mem_repeatUpTo (step : Nat → List Nat) (greedy : Bool) (count place : Nat) :
    place ∈ repeatUpTo step greedy count place := by
  cases count with
  | zero => exact List.mem_singleton_self place
  | succ count => exact mem_repeatUpTo_succ.mpr (Or.inl rfl)

/-- A step between sets of places of a text goes from each place to the places listed for it. -/
structure Follows (length : Nat) (step : Positions → Positions) (next : Nat → List Nat) : Prop where
  bounded : ∀ place ≤ length, ∀ stop ∈ next place, stop ≤ length
  testBit_iff : ∀ positions : Positions, (∀ place, positions.testBit place = true → place ≤ length) →
    ∀ stop, (step positions).testBit stop = true ↔
      ∃ place, positions.testBit place = true ∧ stop ∈ next place

namespace Follows

variable {length : Nat} {step other : Positions → Positions} {next further : Nat → List Nat}

theorem bounded_step (h : Follows length step next) {positions : Positions}
    (hbound : ∀ place, positions.testBit place = true → place ≤ length) :
    ∀ stop, (step positions).testBit stop = true → stop ≤ length := by
  intro stop hstop
  obtain ⟨place, hplace, hnext⟩ := (h.testBit_iff positions hbound stop).mp hstop
  exact h.bounded place (hbound place hplace) stop hnext

theorem comp (h : Follows length step next) (hother : Follows length other further) :
    Follows length (fun positions => other (step positions))
      (fun place => (next place).flatMap further) where
  bounded place hplace stop hstop := by
    obtain ⟨middle, hmiddle, hstop⟩ := List.mem_flatMap.mp hstop
    exact hother.bounded middle (h.bounded place hplace middle hmiddle) stop hstop
  testBit_iff positions hbound stop := by
    rw [hother.testBit_iff _ (h.bounded_step hbound)]
    constructor
    · rintro ⟨middle, hmiddle, hstop⟩
      obtain ⟨place, hplace, hnext⟩ := (h.testBit_iff positions hbound middle).mp hmiddle
      exact ⟨place, hplace, List.mem_flatMap.mpr ⟨middle, hnext, hstop⟩⟩
    · rintro ⟨place, hplace, hstop⟩
      obtain ⟨middle, hmiddle, hstop⟩ := List.mem_flatMap.mp hstop
      exact ⟨middle, (h.testBit_iff positions hbound middle).mpr ⟨place, hplace, hmiddle⟩, hstop⟩

theorem or (h : Follows length step next) (hother : Follows length other further) :
    Follows length (fun positions => step positions ||| other positions)
      (fun place => next place ++ further place) where
  bounded place hplace stop hstop :=
    (List.mem_append.mp hstop).elim (h.bounded place hplace stop) (hother.bounded place hplace stop)
  testBit_iff positions hbound stop := by
    rw [Nat.testBit_or, Bool.or_eq_true, h.testBit_iff positions hbound,
      hother.testBit_iff positions hbound]
    simp only [List.mem_append, and_or_left, exists_or]

theorem exactly (h : Follows length step next) (count : Nat) :
    Follows length (Positions.exactly step count) (repeatExactly next count) := by
  induction count with
  | zero =>
    refine ⟨fun place hplace stop hstop => List.mem_singleton.mp hstop ▸ hplace, ?_⟩
    intro positions _ stop
    simp [Positions.exactly, repeatExactly]
  | succ count ih =>
    have hcomp := h.comp ih
    refine ⟨hcomp.bounded, fun positions hbound stop => ?_⟩
    rw [Positions.exactly_succ]
    exact hcomp.testBit_iff positions hbound stop

theorem upTo (h : Follows length step next) (greedy : Bool) (count : Nat) :
    Follows length (Positions.upTo step count) (repeatUpTo next greedy count) := by
  induction count with
  | zero =>
    refine ⟨fun place hplace stop hstop => List.mem_singleton.mp hstop ▸ hplace, ?_⟩
    intro positions _ stop
    simp [Positions.upTo, repeatUpTo]
  | succ count ih =>
    refine ⟨fun place hplace stop hstop => ?_, fun positions hbound stop => ?_⟩
    · rcases mem_repeatUpTo_succ.mp hstop with rfl | ⟨middle, hmiddle, hstop⟩
      · exact hplace
      · exact ih.bounded middle (h.bounded place hplace middle hmiddle) stop hstop
    · have hnext := h.testBit_iff positions hbound
      have hboth : ∀ place, (positions ||| step positions).testBit place = true →
          place ≤ length := by
        intro place hplace
        rw [Nat.testBit_or, Bool.or_eq_true] at hplace
        exact hplace.elim (hbound place) (h.bounded_step hbound place)
      rw [Positions.upTo_succ, ih.testBit_iff _ hboth]
      constructor
      · rintro ⟨place, hplace, hstop⟩
        rw [Nat.testBit_or, Bool.or_eq_true] at hplace
        rcases hplace with hplace | hplace
        · exact ⟨place, hplace, repeatUpTo_mono hstop⟩
        · obtain ⟨start, hstart, hmiddle⟩ := (hnext place).mp hplace
          exact ⟨start, hstart, mem_repeatUpTo_succ.mpr (Or.inr ⟨place, hmiddle, hstop⟩)⟩
      · rintro ⟨place, hplace, hstop⟩
        rcases mem_repeatUpTo_succ.mp hstop with rfl | ⟨middle, hmiddle, hstop⟩
        · refine ⟨stop, ?_, self_mem_repeatUpTo _ _ _ _⟩
          rw [Nat.testBit_or, Bool.or_eq_true]
          exact Or.inl hplace
        · refine ⟨middle, ?_, hstop⟩
          rw [Nat.testBit_or, Bool.or_eq_true]
          exact Or.inr ((hnext middle).mpr ⟨place, hplace, hmiddle⟩)

end Follows

/-! ## The search -/

/-- Advancing sets of positions over a text goes from each place to where matches end. -/
theorem follows_ends (text : List Char) (pattern : Pattern) :
    Follows text.length ((pattern.overlay text).advance text.length) (pattern.ends text) := by
  rw [overlay]
  induction pattern with
  | empty =>
    refine ⟨fun place hplace stop hstop => List.mem_singleton.mp hstop ▸ hplace, ?_⟩
    intro positions _ stop
    simp [Expr.map, Expr.advance, ends]
  | one chars =>
    have hmem : ∀ place stop, stop ∈ ends text (.one chars) place ↔
        stop = place + 1 ∧ text[place]?.any chars.has = true := by
      intro place stop
      rw [ends]
      split <;> simp_all
    refine ⟨fun place _ stop hstop => ?_, fun positions _ stop => ?_⟩
    · obtain ⟨rfl, hhas⟩ := (hmem place stop).mp hstop
      cases hc : text[place]? with
      | none =>
        rw [hc] at hhas
        exact absurd hhas Bool.false_ne_true
      | some c => exact (List.getElem?_eq_some_iff.mp hc).1
    · rw [Expr.map, Expr.advance, Nat.testBit_shiftLeft]
      simp only [hmem, Nat.testBit_and, Positions.testBit_ofChars, Bool.and_eq_true,
        decide_eq_true_eq]
      constructor
      · rintro ⟨hpos, hplace, hhas⟩
        exact ⟨stop - 1, hplace, by omega, hhas⟩
      · rintro ⟨place, hplace, rfl, hhas⟩
        exact ⟨by omega, hplace, hhas⟩
  | look look =>
    have hmem : ∀ place stop, stop ∈ ends text (.look look) place ↔
        stop = place ∧ look.holds (before text place) text[place]? = true := by
      intro place stop
      rw [ends]
      split <;> simp_all
    refine ⟨fun place hplace stop hstop => ((hmem place stop).mp hstop).1 ▸ hplace, ?_⟩
    intro positions hbound stop
    rw [Expr.map, Expr.advance]
    simp only [hmem, Nat.testBit_and, Bool.and_eq_true, Positions.testBit_ofLook]
    constructor
    · rintro ⟨hstop, _, hholds⟩
      exact ⟨stop, hstop, rfl, hholds⟩
    · rintro ⟨place, hplace, rfl, hholds⟩
      exact ⟨hplace, hbound _ hplace, hholds⟩
  | concat first second ihFirst ihSecond => exact ihFirst.comp ihSecond
  | alternate first second ihFirst ihSecond => exact ihFirst.or ihSecond
  | iterate least most greedy body ih => exact (ih.exactly least).comp (ih.upTo greedy _)

/-- **A search succeeds just if a match starts at some place of the text.** -/
theorem isMatch_iff (pattern : Pattern) (text : String) :
    pattern.isMatch text = true ↔
      ∃ place ≤ text.toList.length, pattern.ends text.toList place ≠ [] := by
  have hfollows := follows_ends text.toList pattern
  have hbits := hfollows.testBit_iff (Positions.all text.toList.length)
    fun place hplace => (Positions.testBit_all _ _).mp hplace
  rw [isMatch, bne_iff_ne]
  constructor
  · intro hne
    obtain ⟨stop, hstop⟩ := Nat.exists_testBit_of_ne_zero hne
    obtain ⟨place, hplace, hends⟩ := (hbits stop).mp hstop
    exact ⟨place, (Positions.testBit_all _ _).mp hplace, List.ne_nil_of_mem hends⟩
  · rintro ⟨place, hplace, hends⟩ hzero
    obtain ⟨stop, hstop⟩ := List.exists_mem_of_ne_nil _ hends
    have hbit := (hbits stop).mpr ⟨place, (Positions.testBit_all _ _).mpr hplace, hstop⟩
    rw [hzero, Nat.zero_testBit] at hbit
    exact absurd hbit Bool.false_ne_true

end Pattern

end EditorBridge.Regex
