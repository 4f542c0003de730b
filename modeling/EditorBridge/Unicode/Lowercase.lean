import EditorBridge.Unicode.Character
/-!
Lowercase forms of single characters.  Most uppercase letters stand in a run whose lowercase forms are in a
row as well, or in a range where each uppercase letter has its lowercase form right behind it.  A lowercase
form has no other one (`lowercase_lowercase`), and is not white space unless its letter is
(`isWhitespace_lowercase`).
-/

set_option autoImplicit false

namespace EditorBridge.Character

/-! ## Tables -/

/-- Letters in a row whose lowercase forms are in a row as well. -/
structure CaseRun where
  letters : CharRange
  /-- The lowercase form of the first letter. -/
  first : Nat
deriving DecidableEq, Repr

def CaseRun.forms (run : CaseRun) : CharRange :=
  ⟨run.first, run.first + (run.letters.high - run.letters.low)⟩

/-- Runs of letters beyond ASCII that have a lowercase form. -/
def caseRuns : List CaseRun :=
  [⟨⟨0xC0, 0xD6⟩, 0xE0⟩, ⟨⟨0xD8, 0xDE⟩, 0xF8⟩, ⟨⟨0x130, 0x130⟩, 0x69⟩, ⟨⟨0x178, 0x178⟩, 0xFF⟩,
    ⟨⟨0x181, 0x181⟩, 0x253⟩, ⟨⟨0x186, 0x186⟩, 0x254⟩, ⟨⟨0x189, 0x18A⟩, 0x256⟩, ⟨⟨0x18E, 0x18E⟩, 0x1DD⟩,
    ⟨⟨0x18F, 0x18F⟩, 0x259⟩, ⟨⟨0x190, 0x190⟩, 0x25B⟩, ⟨⟨0x193, 0x193⟩, 0x260⟩, ⟨⟨0x194, 0x194⟩, 0x263⟩,
    ⟨⟨0x196, 0x196⟩, 0x269⟩, ⟨⟨0x197, 0x197⟩, 0x268⟩, ⟨⟨0x19C, 0x19C⟩, 0x26F⟩, ⟨⟨0x19D, 0x19D⟩, 0x272⟩,
    ⟨⟨0x19F, 0x19F⟩, 0x275⟩, ⟨⟨0x1A6, 0x1A6⟩, 0x280⟩, ⟨⟨0x1A9, 0x1A9⟩, 0x283⟩, ⟨⟨0x1AE, 0x1AE⟩, 0x288⟩,
    ⟨⟨0x1B1, 0x1B2⟩, 0x28A⟩, ⟨⟨0x1B7, 0x1B7⟩, 0x292⟩, ⟨⟨0x1C4, 0x1C4⟩, 0x1C6⟩, ⟨⟨0x1C5, 0x1C5⟩, 0x1C6⟩,
    ⟨⟨0x1C7, 0x1C7⟩, 0x1C9⟩, ⟨⟨0x1C8, 0x1C8⟩, 0x1C9⟩, ⟨⟨0x1CA, 0x1CA⟩, 0x1CC⟩, ⟨⟨0x1CB, 0x1CB⟩, 0x1CC⟩,
    ⟨⟨0x1F1, 0x1F1⟩, 0x1F3⟩, ⟨⟨0x1F2, 0x1F2⟩, 0x1F3⟩, ⟨⟨0x1F6, 0x1F6⟩, 0x195⟩, ⟨⟨0x1F7, 0x1F7⟩, 0x1BF⟩,
    ⟨⟨0x220, 0x220⟩, 0x19E⟩, ⟨⟨0x23A, 0x23A⟩, 0x2C65⟩, ⟨⟨0x23D, 0x23D⟩, 0x19A⟩, ⟨⟨0x23E, 0x23E⟩, 0x2C66⟩,
    ⟨⟨0x243, 0x243⟩, 0x180⟩, ⟨⟨0x244, 0x244⟩, 0x289⟩, ⟨⟨0x245, 0x245⟩, 0x28C⟩, ⟨⟨0x37F, 0x37F⟩, 0x3F3⟩,
    ⟨⟨0x386, 0x386⟩, 0x3AC⟩, ⟨⟨0x388, 0x38A⟩, 0x3AD⟩, ⟨⟨0x38C, 0x38C⟩, 0x3CC⟩, ⟨⟨0x38E, 0x38F⟩, 0x3CD⟩,
    ⟨⟨0x391, 0x3A1⟩, 0x3B1⟩, ⟨⟨0x3A3, 0x3AB⟩, 0x3C3⟩, ⟨⟨0x3CF, 0x3CF⟩, 0x3D7⟩, ⟨⟨0x3F4, 0x3F4⟩, 0x3B8⟩,
    ⟨⟨0x3F9, 0x3F9⟩, 0x3F2⟩, ⟨⟨0x3FD, 0x3FF⟩, 0x37B⟩, ⟨⟨0x400, 0x40F⟩, 0x450⟩, ⟨⟨0x410, 0x42F⟩, 0x430⟩,
    ⟨⟨0x4C0, 0x4C0⟩, 0x4CF⟩, ⟨⟨0x531, 0x556⟩, 0x561⟩, ⟨⟨0x10A0, 0x10C5⟩, 0x2D00⟩,
    ⟨⟨0x10C7, 0x10C7⟩, 0x2D27⟩, ⟨⟨0x10CD, 0x10CD⟩, 0x2D2D⟩, ⟨⟨0x13A0, 0x13EF⟩, 0xAB70⟩,
    ⟨⟨0x13F0, 0x13F5⟩, 0x13F8⟩, ⟨⟨0x1C90, 0x1CBA⟩, 0x10D0⟩, ⟨⟨0x1CBD, 0x1CBF⟩, 0x10FD⟩,
    ⟨⟨0x1E9E, 0x1E9E⟩, 0xDF⟩, ⟨⟨0x1F08, 0x1F0F⟩, 0x1F00⟩, ⟨⟨0x1F18, 0x1F1D⟩, 0x1F10⟩,
    ⟨⟨0x1F28, 0x1F2F⟩, 0x1F20⟩, ⟨⟨0x1F38, 0x1F3F⟩, 0x1F30⟩, ⟨⟨0x1F48, 0x1F4D⟩, 0x1F40⟩,
    ⟨⟨0x1F59, 0x1F59⟩, 0x1F51⟩, ⟨⟨0x1F5B, 0x1F5B⟩, 0x1F53⟩, ⟨⟨0x1F5D, 0x1F5D⟩, 0x1F55⟩,
    ⟨⟨0x1F5F, 0x1F5F⟩, 0x1F57⟩, ⟨⟨0x1F68, 0x1F6F⟩, 0x1F60⟩, ⟨⟨0x1F88, 0x1F8F⟩, 0x1F80⟩,
    ⟨⟨0x1F98, 0x1F9F⟩, 0x1F90⟩, ⟨⟨0x1FA8, 0x1FAF⟩, 0x1FA0⟩, ⟨⟨0x1FB8, 0x1FB9⟩, 0x1FB0⟩,
    ⟨⟨0x1FBA, 0x1FBB⟩, 0x1F70⟩, ⟨⟨0x1FBC, 0x1FBC⟩, 0x1FB3⟩, ⟨⟨0x1FC8, 0x1FCB⟩, 0x1F72⟩,
    ⟨⟨0x1FCC, 0x1FCC⟩, 0x1FC3⟩, ⟨⟨0x1FD8, 0x1FD9⟩, 0x1FD0⟩, ⟨⟨0x1FDA, 0x1FDB⟩, 0x1F76⟩,
    ⟨⟨0x1FE8, 0x1FE9⟩, 0x1FE0⟩, ⟨⟨0x1FEA, 0x1FEB⟩, 0x1F7A⟩, ⟨⟨0x1FEC, 0x1FEC⟩, 0x1FE5⟩,
    ⟨⟨0x1FF8, 0x1FF9⟩, 0x1F78⟩, ⟨⟨0x1FFA, 0x1FFB⟩, 0x1F7C⟩, ⟨⟨0x1FFC, 0x1FFC⟩, 0x1FF3⟩,
    ⟨⟨0x2126, 0x2126⟩, 0x3C9⟩, ⟨⟨0x212A, 0x212A⟩, 0x6B⟩, ⟨⟨0x212B, 0x212B⟩, 0xE5⟩,
    ⟨⟨0x2132, 0x2132⟩, 0x214E⟩, ⟨⟨0x2160, 0x216F⟩, 0x2170⟩, ⟨⟨0x24B6, 0x24CF⟩, 0x24D0⟩,
    ⟨⟨0x2C00, 0x2C2F⟩, 0x2C30⟩, ⟨⟨0x2C62, 0x2C62⟩, 0x26B⟩, ⟨⟨0x2C63, 0x2C63⟩, 0x1D7D⟩,
    ⟨⟨0x2C64, 0x2C64⟩, 0x27D⟩, ⟨⟨0x2C6D, 0x2C6D⟩, 0x251⟩, ⟨⟨0x2C6E, 0x2C6E⟩, 0x271⟩,
    ⟨⟨0x2C6F, 0x2C6F⟩, 0x250⟩, ⟨⟨0x2C70, 0x2C70⟩, 0x252⟩, ⟨⟨0x2C7E, 0x2C7F⟩, 0x23F⟩,
    ⟨⟨0xA77D, 0xA77D⟩, 0x1D79⟩, ⟨⟨0xA78D, 0xA78D⟩, 0x265⟩, ⟨⟨0xA7AA, 0xA7AA⟩, 0x266⟩,
    ⟨⟨0xA7AB, 0xA7AB⟩, 0x25C⟩, ⟨⟨0xA7AC, 0xA7AC⟩, 0x261⟩, ⟨⟨0xA7AD, 0xA7AD⟩, 0x26C⟩,
    ⟨⟨0xA7AE, 0xA7AE⟩, 0x26A⟩, ⟨⟨0xA7B0, 0xA7B0⟩, 0x29E⟩, ⟨⟨0xA7B1, 0xA7B1⟩, 0x287⟩,
    ⟨⟨0xA7B2, 0xA7B2⟩, 0x29D⟩, ⟨⟨0xA7B3, 0xA7B3⟩, 0xAB53⟩, ⟨⟨0xA7C4, 0xA7C4⟩, 0xA794⟩,
    ⟨⟨0xA7C5, 0xA7C5⟩, 0x282⟩, ⟨⟨0xA7C6, 0xA7C6⟩, 0x1D8E⟩, ⟨⟨0xA7CB, 0xA7CB⟩, 0x264⟩,
    ⟨⟨0xA7DC, 0xA7DC⟩, 0x19B⟩, ⟨⟨0xFF21, 0xFF3A⟩, 0xFF41⟩, ⟨⟨0x10400, 0x10427⟩, 0x10428⟩,
    ⟨⟨0x104B0, 0x104D3⟩, 0x104D8⟩, ⟨⟨0x10570, 0x1057A⟩, 0x10597⟩, ⟨⟨0x1057C, 0x1058A⟩, 0x105A3⟩,
    ⟨⟨0x1058C, 0x10592⟩, 0x105B3⟩, ⟨⟨0x10594, 0x10595⟩, 0x105BB⟩, ⟨⟨0x10C80, 0x10CB2⟩, 0x10CC0⟩,
    ⟨⟨0x10D50, 0x10D65⟩, 0x10D70⟩, ⟨⟨0x118A0, 0x118BF⟩, 0x118C0⟩, ⟨⟨0x16E40, 0x16E5F⟩, 0x16E60⟩,
    ⟨⟨0x16EA0, 0x16EB8⟩, 0x16EBB⟩, ⟨⟨0x1E900, 0x1E921⟩, 0x1E922⟩]

/-- Ranges in which the first, the third and each further second character is a letter whose lowercase form
is the next character. -/
def casePairs : CharSet :=
  [⟨0x100, 0x12F⟩, ⟨0x132, 0x137⟩, ⟨0x139, 0x148⟩, ⟨0x14A, 0x177⟩, ⟨0x179, 0x17E⟩, ⟨0x182, 0x185⟩,
    ⟨0x187, 0x188⟩, ⟨0x18B, 0x18C⟩, ⟨0x191, 0x192⟩, ⟨0x198, 0x199⟩, ⟨0x1A0, 0x1A5⟩, ⟨0x1A7, 0x1A8⟩,
    ⟨0x1AC, 0x1AD⟩, ⟨0x1AF, 0x1B0⟩, ⟨0x1B3, 0x1B6⟩, ⟨0x1B8, 0x1B9⟩, ⟨0x1BC, 0x1BD⟩, ⟨0x1CD, 0x1DC⟩,
    ⟨0x1DE, 0x1EF⟩, ⟨0x1F4, 0x1F5⟩, ⟨0x1F8, 0x21F⟩, ⟨0x222, 0x233⟩, ⟨0x23B, 0x23C⟩, ⟨0x241, 0x242⟩,
    ⟨0x246, 0x24F⟩, ⟨0x370, 0x373⟩, ⟨0x376, 0x377⟩, ⟨0x3D8, 0x3EF⟩, ⟨0x3F7, 0x3F8⟩, ⟨0x3FA, 0x3FB⟩,
    ⟨0x460, 0x481⟩, ⟨0x48A, 0x4BF⟩, ⟨0x4C1, 0x4CE⟩, ⟨0x4D0, 0x52F⟩, ⟨0x1C89, 0x1C8A⟩, ⟨0x1E00, 0x1E95⟩,
    ⟨0x1EA0, 0x1EFF⟩, ⟨0x2183, 0x2184⟩, ⟨0x2C60, 0x2C61⟩, ⟨0x2C67, 0x2C6C⟩, ⟨0x2C72, 0x2C73⟩,
    ⟨0x2C75, 0x2C76⟩, ⟨0x2C80, 0x2CE3⟩, ⟨0x2CEB, 0x2CEE⟩, ⟨0x2CF2, 0x2CF3⟩, ⟨0xA640, 0xA66D⟩,
    ⟨0xA680, 0xA69B⟩, ⟨0xA722, 0xA72F⟩, ⟨0xA732, 0xA76F⟩, ⟨0xA779, 0xA77C⟩, ⟨0xA77E, 0xA787⟩,
    ⟨0xA78B, 0xA78C⟩, ⟨0xA790, 0xA793⟩, ⟨0xA796, 0xA7A9⟩, ⟨0xA7B4, 0xA7C3⟩, ⟨0xA7C7, 0xA7CA⟩,
    ⟨0xA7CC, 0xA7DB⟩, ⟨0xA7F5, 0xA7F6⟩]

/-! ## Lowercase forms -/

/-- The lowercase form of a code point beyond ASCII, which is the code point itself if it has no other. -/
def lowercaseCode (code : Nat) : Nat :=
  match caseRuns.find? (·.letters.contains code) with
  | some run => run.first + (code - run.letters.low)
  | none =>
    if casePairs.any fun range => range.contains code && (code - range.low) % 2 == 0 then code + 1 else code

/-- The lowercase form of a character, as far as it is one character; any other character is left as it is. -/
def lowercase (c : Char) : Char :=
  if c.toNat < 0x80 then c.toLower else Char.ofNat (lowercaseCode c.toNat)

/-! ## Forms of forms -/

/-- Whether two ranges have no code point in common. -/
def apart (a b : CharRange) : Bool := a.high.blt b.low || b.high.blt a.low

/-- Whether all code points of a range are characters beyond ASCII, none of them white space or in a run. -/
def beyondRuns (range : CharRange) : Bool :=
  0x80 ≤ range.low && (range.high < 0xD800 || (0xDFFF < range.low && range.high < 0x110000)) &&
    whiteSpace.all (apart range) && caseRuns.all fun run => apart range run.letters

theorem forms_beyondRuns : (caseRuns.all fun run => (0x61 ≤ run.first && run.forms.high ≤ 0x7A) ||
    beyondRuns run.forms && casePairs.all (apart run.forms)) = true := by
  decide +kernel

theorem casePairs_beyondRuns :
    (casePairs.all fun range => (range.high - range.low) % 2 == 1 && beyondRuns range) = true := by
  decide +kernel

theorem casePairs_apart :
    (casePairs.all fun range => casePairs.all fun other => range == other || apart range other) = true := by
  decide +kernel

theorem contains_of_apart {a b : CharRange} {code : Nat} (h : apart a b = true)
    (hcode : a.contains code = true) : b.contains code = false := by
  simp only [apart, Bool.or_eq_true, Nat.blt_eq] at h
  simp only [CharRange.contains, Bool.and_eq_true, decide_eq_true_eq] at hcode
  simp only [CharRange.contains, Bool.and_eq_false_iff, decide_eq_false_iff_not]
  omega

/-- A lowercase form: a character of its own that is not white space. -/
structure IsForm (code : Nat) : Prop where
  valid : code.isValidChar
  notBlank : whiteSpace.contains code = false
  lowercase_eq : lowercase (Char.ofNat code) = Char.ofNat code

theorem toNat_ofNat {code : Nat} (h : code.isValidChar) : (Char.ofNat code).toNat = code := by
  rw [Char.ofNat, dif_pos h]
  rfl

theorem lowercaseCode_eq_self {code : Nat} (hruns : ∀ run ∈ caseRuns, run.letters.contains code = false)
    (hpairs : ∀ range ∈ casePairs, range.contains code = true → (code - range.low) % 2 = 1) :
    lowercaseCode code = code := by
  have hrun : caseRuns.find? (·.letters.contains code) = none := by
    rw [List.find?_eq_none]
    intro run hmem
    simp [hruns run hmem]
  have hpair : (casePairs.any fun range => range.contains code && (code - range.low) % 2 == 0) = false := by
    rw [List.any_eq_false]
    intro range hmem
    by_cases hcode : range.contains code = true
    · simp [hpairs range hmem hcode]
    · simp [hcode]
  simp [lowercaseCode, hrun, hpair]

/-- A code point has a lowercase form by a run, by a pair, or not at all. -/
theorem lowercaseCode_cases (code : Nat) : lowercaseCode code = code ∨
    (∃ run ∈ caseRuns, run.forms.contains (lowercaseCode code) = true) ∨
    ∃ range ∈ casePairs, range.contains code = true ∧ (code - range.low) % 2 = 0 ∧
      lowercaseCode code = code + 1 := by
  unfold lowercaseCode
  split
  next run hrun =>
    have hcode := List.find?_some hrun
    have hmem := List.mem_of_find?_eq_some hrun
    refine .inr (.inl ⟨run, hmem, ?_⟩)
    simp only [CharRange.contains_iff, CaseRun.forms] at hcode ⊢
    omega
  next =>
    split
    next hpair =>
      obtain ⟨range, hmem, hrange⟩ := List.any_eq_true.mp hpair
      simp only [Bool.and_eq_true, beq_iff_eq] at hrange
      exact .inr (.inr ⟨range, hmem, hrange.1, hrange.2, rfl⟩)
    next => exact .inl rfl

theorem isForm_of_beyondRuns {range : CharRange} {code : Nat} (hrange : beyondRuns range = true)
    (hcode : range.contains code = true)
    (hpairs : ∀ pair ∈ casePairs, pair.contains code = true → (code - pair.low) % 2 = 1) : IsForm code := by
  simp only [beyondRuns, Bool.and_eq_true, Bool.or_eq_true, decide_eq_true_eq, List.all_eq_true] at hrange
  obtain ⟨⟨⟨hascii, hvalid⟩, hblank⟩, hruns⟩ := hrange
  have hbounds := CharRange.contains_iff.mp hcode
  have hchar : code.isValidChar := by
    simp only [Nat.isValidChar]
    omega
  refine ⟨hchar, ?_, ?_⟩
  · rw [CharSet.contains, List.any_eq_false]
    intro blank hmem
    simp [contains_of_apart (hblank blank hmem) hcode]
  · have hself := lowercaseCode_eq_self
      (fun run hmem => contains_of_apart (hruns run hmem) hcode) hpairs
    rw [lowercase, toNat_ofNat hchar, if_neg (by omega), hself]

theorem isForm_of_letter {code : Nat} (hfirst : 0x61 ≤ code) (hlast : code < 0x7B) : IsForm code := by
  have hletters : ∀ code < 0x7B, 0x61 ≤ code → code.isValidChar ∧ whiteSpace.contains code = false ∧
      lowercase (Char.ofNat code) = Char.ofNat code := by
    decide
  obtain ⟨hvalid, hblank, hself⟩ := hletters code hlast hfirst
  exact ⟨hvalid, hblank, hself⟩

theorem isForm_of_run {run : CaseRun} {code : Nat} (hmem : run ∈ caseRuns)
    (hcode : run.forms.contains code = true) : IsForm code := by
  have hrun := List.all_eq_true.mp forms_beyondRuns run hmem
  simp only [Bool.or_eq_true, Bool.and_eq_true, decide_eq_true_eq] at hrun
  rcases hrun with ⟨hfirst, hlast⟩ | ⟨hbeyond, hapart⟩
  · rw [CharRange.contains_iff] at hcode
    have hlow : run.forms.low = run.first := rfl
    exact isForm_of_letter (by omega) (by omega)
  · refine isForm_of_beyondRuns hbeyond hcode fun pair hpair hcontains => ?_
    rw [contains_of_apart (List.all_eq_true.mp hapart pair hpair) hcode] at hcontains
    contradiction

/-- The second character of a pair is in no other pair, and not the first one of its own. -/
theorem isForm_of_pair {range : CharRange} {code : Nat} (hmem : range ∈ casePairs)
    (hcode : range.contains code = true) (heven : (code - range.low) % 2 = 0) : IsForm (code + 1) := by
  have hrange := List.all_eq_true.mp casePairs_beyondRuns range hmem
  simp only [Bool.and_eq_true, beq_iff_eq] at hrange
  obtain ⟨hodd, hbeyond⟩ := hrange
  rw [CharRange.contains_iff] at hcode
  have hnext : range.contains (code + 1) = true := by
    rw [CharRange.contains_iff]
    omega
  refine isForm_of_beyondRuns hbeyond hnext fun other hother hcontains => ?_
  have hapart := List.all_eq_true.mp (List.all_eq_true.mp casePairs_apart range hmem) other hother
  rw [Bool.or_eq_true, beq_iff_eq] at hapart
  rcases hapart with rfl | hapart
  · omega
  · rw [contains_of_apart hapart hnext] at hcontains
    contradiction

theorem isForm_lowercaseCode {code : Nat} (h : lowercaseCode code ≠ code) :
    IsForm (lowercaseCode code) := by
  rcases lowercaseCode_cases code with hself | ⟨run, hmem, hform⟩ | ⟨range, hmem, hcode, heven, hnext⟩
  · exact absurd hself h
  · exact isForm_of_run hmem hform
  · rw [hnext]
    exact isForm_of_pair hmem hcode heven

/-- Beyond ASCII, a character is its own lowercase form or has one that is. -/
theorem lowercase_cases {c : Char} (hascii : 0x80 ≤ c.toNat) :
    lowercase c = c ∨ ∃ code, IsForm code ∧ lowercase c = Char.ofNat code := by
  rw [lowercase, if_neg (by omega)]
  by_cases h : lowercaseCode c.toNat = c.toNat
  · rw [h, Char.ofNat_toNat]
    exact .inl rfl
  · exact .inr ⟨_, isForm_lowercaseCode h, rfl⟩

theorem forall_ascii {p : Char → Prop} (h : ∀ code < 0x80, p (Char.ofNat code)) {c : Char}
    (hascii : c.toNat < 0x80) : p c := by
  have hcode := h c.toNat hascii
  rwa [Char.ofNat_toNat] at hcode

theorem lowercase_of_ascii {c : Char} (hascii : c.toNat < 0x80) : lowercase c = c.toLower := if_pos hascii

theorem lowercase_lowercase (c : Char) : lowercase (lowercase c) = lowercase c := by
  by_cases hascii : c.toNat < 0x80
  · refine forall_ascii (p := fun c => lowercase (lowercase c) = lowercase c) ?_ hascii
    decide
  · rcases lowercase_cases (Nat.le_of_not_lt hascii) with hself | ⟨code, hform, hcode⟩
    · rw [hself, hself]
    · rw [hcode, hform.lowercase_eq]

theorem isWhitespace_lowercase {c : Char} (h : isWhitespace c = false) :
    isWhitespace (lowercase c) = false := by
  by_cases hascii : c.toNat < 0x80
  · refine forall_ascii (p := fun c => isWhitespace c = false → isWhitespace (lowercase c) = false) ?_ hascii h
    decide
  · rcases lowercase_cases (Nat.le_of_not_lt hascii) with hself | ⟨code, hform, hcode⟩
    · rw [hself, h]
    · rw [hcode, isWhitespace, CharSet.has, toNat_ofNat hform.valid, hform.notBlank]

end EditorBridge.Character
