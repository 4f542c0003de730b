import EditorBridge.Tree.Conventions
import Mathlib.Algebra.Group.Nat.Defs
/-!
Spelling paths.  `Conventions.spell` writes the steps of a path, and `segments_spell` says that they are
read back: a segment is split at its last marker, which is the one written in front of the index, for
the digits of an index hold neither the marker nor the separator.
-/

set_option autoImplicit false

namespace EditorBridge.Conventions

/-! ## What is written -/

/-- How a step is written: the property, and the index in decimal digits after a marker. -/
def spellStep (conventions : Conventions) (step : Segment) : String :=
  match step.index with
  | none => step.property
  | some index => step.property ++ conventions.indexMarker.toString ++ toString index

/-- How a path is written: the prefix, and the steps with a separator between each two. -/
def spell (conventions : Conventions) (steps : List Segment) : String :=
  conventions.pathPrefix.toString ++
    conventions.segmentSeparator.toString.intercalate (steps.map conventions.spellStep)

/-- The separator, the marker and the digits can be told apart. -/
structure Distinct (conventions : Conventions) : Prop where
  separator_ne_marker : conventions.segmentSeparator ≠ conventions.indexMarker
  separator_not_digit : conventions.segmentSeparator.isDigit = false
  marker_not_digit : conventions.indexMarker.isDigit = false

theorem distinct_default : Distinct {} := ⟨by decide, by decide, by decide⟩

/-- A step can be written as one segment and read back.  With an index, its property may be empty and
may hold the marker. -/
structure Spellable (conventions : Conventions) (step : Segment) : Prop where
  separator_not_mem : conventions.segmentSeparator ∉ step.property.toList
  index_lt : ∀ index, step.index = some index → index < 2 ^ 64
  without_index : step.index = none →
    step.property ≠ "" ∧ conventions.indexMarker ∉ step.property.toList

/-! ## Reading an index -/

/-- Digits are added to a number one after the other. -/
theorem foldl_digits {digits : List Char} (h : ∀ c ∈ digits, c.isDigit = true) (value : Nat) :
    digits.foldl (fun value c => do return (← value) * 10 + (← digitValue? c)) (some value) =
      some (Nat.ofDigitChars 10 digits value) := by
  induction digits generalizing value with
  | nil => simp
  | cons c rest ih =>
    obtain ⟨hc, hrest⟩ := List.forall_mem_cons.mp h
    have hdigit : digitValue? c = some (c.toNat - '0'.toNat) := by rw [digitValue?, if_pos hc]
    have hstep : value * 10 + (c.toNat - '0'.toNat) = 10 * value + (c.toNat - '0'.toNat) := by
      rw [Nat.mul_comm]
    simp only [List.foldl_cons, hdigit, Nat.ofDigitChars_cons, ← hstep]
    exact ih hrest _

theorem isDigit_of_mem (index : Nat) : ∀ c ∈ Nat.toDigits 10 index, c.isDigit = true :=
  fun _ h => Nat.isDigit_of_mem_toDigits (by decide) (by decide) h

theorem digitsValue?_toDigits {index : Nat} (h : index < 2 ^ 64) :
    digitsValue? (Nat.toDigits 10 index) = some index := by
  have hne : (Nat.toDigits 10 index).isEmpty = false := by
    simp [List.isEmpty_eq_false_iff, Nat.toDigits_ne_nil]
  have hvalue := foldl_digits (isDigit_of_mem index) 0
  rw [Nat.ofDigitChars_ten_toDigits] at hvalue
  rw [digitsValue?, hne, hvalue]
  simpa using h

/-- No index is written with a sign, so the digits are read as they are. -/
theorem parseIndex?_toDigits {index : Nat} (h : index < 2 ^ 64) :
    parseIndex? (Nat.toDigits 10 index) = some index := by
  have hvalue := digitsValue?_toDigits h
  unfold parseIndex?
  split
  next digits heq =>
    have hsign : ('+').isDigit = true := isDigit_of_mem index _ (heq ▸ List.mem_cons_self)
    exact absurd hsign (by decide)
  next => exact hvalue

/-! ## Reading a step -/

section Step

variable {conventions : Conventions} {step : Segment}

theorem spellStep_toList (conventions : Conventions) (property : String) (index : Nat) :
    (conventions.spellStep ⟨property, some index⟩).toList =
      property.toList ++ conventions.indexMarker :: Nat.toDigits 10 index := by
  simp [spellStep]

theorem separator_not_mem_spellStep (distinct : conventions.Distinct)
    (h : conventions.Spellable step) :
    conventions.segmentSeparator ∉ (conventions.spellStep step).toList := by
  obtain ⟨property, index⟩ := step
  cases index with
  | none => exact h.separator_not_mem
  | some index =>
    rw [spellStep_toList, List.mem_append, List.mem_cons]
    rintro (hproperty | hmarker | hdigit)
    · exact h.separator_not_mem hproperty
    · exact distinct.separator_ne_marker hmarker
    · have hseparator := isDigit_of_mem index _ hdigit
      rw [distinct.separator_not_digit] at hseparator
      exact absurd hseparator (by decide)

theorem spellStep_ne_nil (h : conventions.Spellable step) :
    (conventions.spellStep step).toList ≠ [] := by
  obtain ⟨property, index⟩ := step
  cases index with
  | none =>
    have hne := (h.without_index rfl).1
    simpa [spellStep] using hne
  | some index => simp [spellStep_toList]

/-- A step is read back from its segment. -/
theorem parseSegment?_spellStep (distinct : conventions.Distinct) (h : conventions.Spellable step) :
    conventions.parseSegment? (conventions.spellStep step).toList = some step := by
  obtain ⟨property, index⟩ := step
  cases index with
  | none =>
    have hmarker := Text.splitAtLast_of_not_mem (h.without_index rfl).2
    simp only [parseSegment?, spellStep, hmarker, String.ofList_toList]
  | some index =>
    have hmarker : conventions.indexMarker ∉ Nat.toDigits 10 index := by
      intro hmem
      have hdigit := isDigit_of_mem index _ hmem
      rw [distinct.marker_not_digit] at hdigit
      exact absurd hdigit (by decide)
    have hindex := parseIndex?_toDigits (h.index_lt index rfl)
    rw [parseSegment?, spellStep_toList, Text.splitAtLast_append _ hmarker]
    simp [hindex]

end Step

/-! ## Reading a path -/

variable {conventions : Conventions} {steps : List Segment}

theorem spell_toList (conventions : Conventions) (steps : List Segment) :
    (conventions.spell steps).toList = conventions.pathPrefix ::
      [conventions.segmentSeparator].intercalate
        (steps.map fun step => (conventions.spellStep step).toList) := by
  simp [spell, String.toList_intercalate, Function.comp_def]

/-- The segments of a path that are not empty are its steps.  A path without steps has one segment,
which is empty. -/
theorem segments_of_spelled (distinct : conventions.Distinct)
    (h : ∀ step ∈ steps, conventions.Spellable step) :
    ((Text.splitOn conventions.segmentSeparator ([conventions.segmentSeparator].intercalate
      (steps.map fun step => (conventions.spellStep step).toList))).filter
        fun segment => !segment.isEmpty) =
      steps.map fun step => (conventions.spellStep step).toList := by
  cases steps with
  | nil => simp [Text.splitOn]
  | cons first rest =>
    have hpieces : ∀ piece ∈ (first :: rest).map fun step => (conventions.spellStep step).toList,
        conventions.segmentSeparator ∉ piece := by
      intro piece hpiece
      obtain ⟨step, hstep, rfl⟩ := List.mem_map.mp hpiece
      exact separator_not_mem_spellStep distinct (h step hstep)
    rw [Text.splitOn_eq, List.splitOn_intercalate _ hpieces (by simp), List.filter_eq_self]
    intro piece hpiece
    obtain ⟨step, hstep, rfl⟩ := List.mem_map.mp hpiece
    have hne := spellStep_ne_nil (h step hstep)
    simpa using hne

theorem mapM_spelled (distinct : conventions.Distinct)
    (h : ∀ step ∈ steps, conventions.Spellable step) :
    (steps.map fun step => (conventions.spellStep step).toList).mapM conventions.parseSegment? =
      some steps := by
  induction steps with
  | nil => rfl
  | cons first rest ih =>
    obtain ⟨hfirst, hrest⟩ := List.forall_mem_cons.mp h
    have hread := parseSegment?_spellStep distinct hfirst
    rw [List.map_cons, List.mapM_cons, hread, ih hrest]
    rfl

/-- The steps of a path that is spelled are read back. -/
theorem segments_spell (distinct : conventions.Distinct)
    (h : ∀ step ∈ steps, conventions.Spellable step) :
    conventions.segments (conventions.spell steps) = some steps := by
  have hpieces := segments_of_spelled distinct h
  have hread := mapM_spelled distinct h
  simp only [segments, spell_toList, if_pos, segmentsOf, hpieces, hread]

end EditorBridge.Conventions
