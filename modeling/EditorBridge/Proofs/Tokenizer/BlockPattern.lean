import EditorBridge.Proofs.Regex.Anchoring
import EditorBridge.Proofs.Text.Occurrence
import Mathlib.Data.List.Sort
/-!
Patterns of block comments: an escaped opening literal, any text as short as possible, an escaped closing
literal.  Such a pattern is refused for nothing but its size (`TerminalPattern.compile_block`), and the
preferred match at an opening literal ends where the closing one first occurs
(`Regex.Pattern.head?_ends_block_of_first`).
-/

set_option autoImplicit false

namespace EditorBridge

/-- The pattern of a comment from one literal to the first occurrence of another one. -/
def Pattern.block (opening closing : String) : String :=
  Pattern.escape opening ++ "[\\s\\S]*?" ++ Pattern.escape closing

/-- Any text, as it is spelled in a pattern. -/
def Pattern.anyText : List Char := ['[', '\\', 's', '\\', 'S', ']', '*', '?']

theorem Pattern.block_toList (opening closing : String) :
    (Pattern.block opening closing).toList = opening.toList.flatMap Pattern.escapeChar ++
      (Pattern.anyText ++ closing.toList.flatMap Pattern.escapeChar) := by
  simp only [block, escape, String.toList_append, String.toList_ofList, List.append_assoc]
  rfl

namespace Regex

/-! ## Reading -/

def Ast.anyText : Ast :=
  .repetition 0 none false (.bracketed false (.union [.short .space false, .short .space true]))

def Ast.blockParts (opening closing : List Char) : List Ast :=
  opening.map ofChar ++ anyText :: closing.map ofChar

theorem Ast.ofParts_blockParts {opening closing : List Char} (hopening : opening ≠ []) :
    Ast.ofParts (Ast.blockParts opening closing) = .concat (Ast.blockParts opening closing) := by
  obtain ⟨c, rest, rfl⟩ := List.exists_cons_of_ne_nil hopening
  cases rest <;> rfl

theorem Ast.depth_concat_blockParts (opening closing : List Char) :
    (Ast.concat (Ast.blockParts opening closing)).depth = 4 := by
  rw [Ast.depth, Ast.blockParts, Ast.depthList_append, Ast.depthList, Ast.depthList_ofChar,
    Ast.depthList_ofChar]
  rfl

namespace Parser

variable {inner : Parser Ast} {steps : Nat} {before parts : List Ast} {rest : List Char}

theorem branchesRest_anyText :
    (branchesRest inner (steps + 2) before parts).run { rest := Pattern.anyText ++ rest } =
      (branchesRest inner steps before (.anyText :: parts)).run { rest := rest } := rfl

/-- The parts of a block comment are read up to the end, or to a closing parenthesis. -/
theorem branches_block {opening : List Char} (hopening : opening ≠ []) (closing : List Char)
    (nesting : Nat) (h : rest = [] ∨ ∃ after, rest = ')' :: after) :
    (branches (nesting + 1)).run { rest := opening.flatMap EditorBridge.Pattern.escapeChar ++
        (EditorBridge.Pattern.anyText ++ (closing.flatMap EditorBridge.Pattern.escapeChar ++ rest)) } =
      some (.concat (Ast.blockParts opening closing), { rest := rest }) := by
  -- There are at least as many steps as there are characters, and each part takes one or two.
  obtain ⟨spare, hspare⟩ : ∃ spare, (opening.flatMap EditorBridge.Pattern.escapeChar ++
      (EditorBridge.Pattern.anyText ++ (closing.flatMap EditorBridge.Pattern.escapeChar ++
        rest))).length + 1 = spare + 1 + closing.length + 2 + opening.length := by
    have hfirst := EditorBridge.Pattern.length_le_escaped opening
    have hlast := EditorBridge.Pattern.length_le_escaped closing
    have hany : EditorBridge.Pattern.anyText.length = 8 := rfl
    refine ⟨(opening.flatMap EditorBridge.Pattern.escapeChar).length - opening.length + 6 +
      ((closing.flatMap EditorBridge.Pattern.escapeChar).length - closing.length) + rest.length, ?_⟩
    simp only [List.length_append, hany]
    omega
  rw [branches, StateT.run_bind]
  have hsteps : ∀ pattern : List Char, Parser.steps.run { rest := pattern } =
      some (pattern.length + 1, { rest := pattern }) := fun _ => rfl
  rw [hsteps]
  simp only [Option.bind_eq_bind, Option.bind_some]
  rw [hspare, branchesRest_literal, branchesRest_anyText, branchesRest_literal, branchesRest_end h]
  simp only [List.append_nil, List.reverse_append, List.reverse_cons, List.reverse_reverse,
    List.reverse_nil, List.nil_append, List.append_assoc, List.singleton_append]
  rw [← Ast.ofParts_blockParts hopening]
  rfl

end Parser

theorem parse_block {opening : String} (hopening : opening.toList ≠ []) (closing : String) :
    parse (EditorBridge.Pattern.block opening closing) =
      some (.concat (Ast.blockParts opening.toList closing.toList)) := by
  have hread := Parser.branches_block hopening closing.toList Parser.maxNesting (Or.inl rfl)
  rw [List.append_nil] at hread
  rw [parse, EditorBridge.Pattern.block_toList, hread]
  simp only [Option.bind_eq_bind, Option.bind_some]
  rw [Ast.depth_concat_blockParts]
  rfl

/-! ## Compiling -/

/-- All characters, as white space and all else. -/
def anyChar : CharSet := Character.whiteSpace.union (Character.whiteSpace.complement.union [])

theorem has_anyChar (c : Char) : anyChar.has c = true := by
  have hvalid : c.toNat ≤ 0x10FFFF := by
    have h := c.valid
    simp only [UInt32.isValidChar, Nat.isValidChar] at h
    have htoNat : c.toNat = c.val.toNat := rfl
    omega
  have hfull : CharSet.full.contains c.toNat = true := by
    simp [CharSet.full, CharSet.contains, CharRange.contains, hvalid]
  rw [anyChar, CharSet.has, CharSet.contains_union, CharSet.contains_union, CharSet.complement,
    CharSet.contains_difference, hfull]
  cases Character.whiteSpace.contains c.toNat <;> rfl

namespace Pattern

/-- As little text as possible. -/
def anyText : Pattern := .iterate 0 none false (.one anyChar)

def block (opening closing : List Char) : Pattern :=
  afterLiteral opening (.concat anyText (afterLiteral closing .empty))

/-- The pattern of texts that are a block comment from start to end. -/
def anchoredBlock (opening closing : List Char) : Pattern :=
  .concat (.look .startText) (.concat (block opening closing) (.concat (.look .endText) .empty))

end Pattern

theorem resolve_block (opening closing : List Char) :
    (Ast.concat (Ast.blockParts opening closing)).resolve.run {} =
      some (Pattern.block opening closing, {}) := by
  have hempty : (Ast.resolveConcat []).run {} = some (.empty, {}) := rfl
  have hclosing := Ast.resolveConcat_literal closing hempty
  rw [List.append_nil] at hclosing
  have hany : (Ast.resolveConcat (.anyText :: closing.map Ast.ofChar)).run {} =
      some (.concat Pattern.anyText (Pattern.afterLiteral closing .empty), {}) := by
    have hanyText : Ast.anyText.resolve.run {} = some (Pattern.anyText, {}) := rfl
    rw [Ast.resolveConcat, StateT.run_bind, hanyText]
    simp only [Option.bind_eq_bind, Option.bind_some]
    rw [StateT.run_bind, hclosing]
    rfl
  rw [Ast.resolve, Ast.blockParts]
  exact Ast.resolveConcat_literal opening hany

theorem spells_block {opening : String} (hopening : opening.toList ≠ []) (closing : String) :
    Spells (EditorBridge.Pattern.block opening closing)
      (Pattern.block opening.toList closing.toList) :=
  .of_parse (parse_block hopening closing) (resolve_block opening.toList closing.toList)

theorem spells_anchoredBlock {opening : String} (hopening : opening.toList ≠ []) (closing : String) :
    Spells (TerminalPattern.anchored (EditorBridge.Pattern.block opening closing))
      (Pattern.anchoredBlock opening.toList closing.toList) := by
  have hinside := Parser.branches_block hopening closing.toList 249 (Or.inr ⟨['$'], rfl⟩)
  have hread : (Parser.branches Parser.maxNesting).run
      { rest := (EditorBridge.Pattern.block opening closing).toList ++ [')', '$'] } =
      some (.concat (Ast.blockParts opening.toList closing.toList), { rest := [')', '$'] }) := by
    rw [EditorBridge.Pattern.block_toList, List.append_assoc, List.append_assoc]
    exact hinside
  have hdepth : (Ast.concat (Ast.blockParts opening.toList closing.toList)).depth + 2 ≤
      Parser.maxNesting := by
    rw [Ast.depth_concat_blockParts]
    decide
  exact .anchored hread hdepth (resolve_block opening.toList closing.toList)

/-! ## Room -/

/-- Sorted by where its ranges start, the set of all characters is a single range. -/
theorem normal_anyChar : anyChar.normal = CharSet.full := by
  -- Insertion sort can be evaluated; both sorts agree, for no two of the ranges start at one place.
  let sorted := anyChar.insertionSort fun a b => a.low ≤ b.low
  have hperm : (anyChar.mergeSort fun a b => a.low ≤ b.low).Perm sorted :=
    (List.mergeSort_perm _ _).trans (List.perm_insertionSort _ _).symm
  have hsorted : sorted.Pairwise fun a b => decide (a.low ≤ b.low) = true := by decide
  have hsort : (anyChar.mergeSort fun a b => a.low ≤ b.low) = sorted := by
    refine hperm.eq_of_pairwise ?_ (List.pairwise_mergeSort ?_ ?_ _) hsorted
    · have hlow : ∀ a ∈ anyChar, ∀ b ∈ sorted, a.low = b.low → a = b := by decide +kernel
      intro a b ha hb hab hba
      have hle := of_decide_eq_true hab
      have hge := of_decide_eq_true hba
      exact hlow a ((List.mergeSort_perm _ _).mem_iff.mp ha) b hb (Nat.le_antisymm hle hge)
    · intro a b c hab hbc
      have hle := of_decide_eq_true hab
      have hmore := of_decide_eq_true hbc
      exact decide_eq_true (Nat.le_trans hle hmore)
    · intro a b
      simp [Nat.le_total]
  have hfilter : anyChar.filter (fun range => range.low ≤ range.high) = anyChar := by decide
  rw [CharSet.normal, hfilter, hsort]
  decide

theorem setSize_anyChar : Pattern.setSize anyChar = 964 := by
  have hascii : anyChar.isAscii = false := by decide
  rw [Pattern.setSize, normal_anyChar, hascii]
  decide +kernel

theorem setSize_singleton_of_ascii {c : Char} (h : c.toNat < 0x80) :
    Pattern.setSize (CharSet.singleton c) = 72 := by
  have hnormal : (CharSet.singleton c).normal = CharSet.singleton c := by
    simp [CharSet.normal, CharSet.singleton, CharSet.joinFrom]
  have hascii : (CharSet.singleton c).isAscii = true := by
    simp [CharSet.isAscii, CharSet.singleton, h]
  rw [Pattern.setSize, hnormal, hascii]
  rfl

theorem size_afterLiteral_of_ascii {literal : List Char} (h : ∀ c ∈ literal, c.toNat < 0x80)
    (rest : Pattern) : (Pattern.afterLiteral literal rest).size = 72 * literal.length + rest.size := by
  induction literal with
  | nil => simp [Pattern.afterLiteral]
  | cons c literal ih =>
    have hsize : (Pattern.afterLiteral (c :: literal) rest).size =
        Pattern.setSize (CharSet.singleton c) + (Pattern.afterLiteral literal rest).size := rfl
    rw [hsize, setSize_singleton_of_ascii (h c List.mem_cons_self),
      ih fun d hd => h d (List.mem_cons_of_mem c hd), List.length_cons]
    omega

theorem size_block_of_ascii {opening closing : List Char} (h : ∀ c ∈ opening ++ closing, c.toNat < 0x80) :
    (Pattern.block opening closing).size = 72 * (opening.length + closing.length) + 1060 := by
  have hany : Pattern.anyText.size = 1028 := by
    have hsize : Pattern.anyText.size = 1 * Pattern.setSize anyChar + 2 * Pattern.stateSize := rfl
    rw [hsize, setSize_anyChar]
    rfl
  have hempty : Pattern.size .empty = 32 := rfl
  have hconcat : ∀ first second : Pattern, Pattern.size (.concat first second) =
      first.size + second.size := fun _ _ => rfl
  rw [Pattern.block, size_afterLiteral_of_ascii fun c hc => h c (List.mem_append_left _ hc), hconcat,
    hany, size_afterLiteral_of_ascii fun c hc => h c (List.mem_append_right _ hc), hempty]
  omega

theorem size_anchoredBlock (opening closing : List Char) :
    (Pattern.anchoredBlock opening closing).size = (Pattern.block opening closing).size + 96 := by
  have hsize : (Pattern.anchoredBlock opening closing).size =
      32 + ((Pattern.block opening closing).size + (32 + 32)) := rfl
  omega

/-! ## Matching -/

namespace Pattern

open Text (FirstOccurrence)

variable {text opening closing : List Char} {place : Nat}

/-- The places where a comment can be closed are tried from left to right. -/
theorem ends_anyText (h : place ≤ text.length) :
    ends text anyText place = List.range' place (text.length + 1 - place) := by
  have hrepeat : ∀ count place, place ≤ text.length → text.length - place ≤ count →
      repeatUpTo (ends text (.one anyChar)) false count place =
        List.range' place (text.length + 1 - place) := by
    intro count
    induction count with
    | zero =>
      intro place hplace hcount
      have hone : text.length + 1 - place = 1 := by omega
      rw [hone]
      rfl
    | succ count ih =>
      intro place hplace hcount
      rw [repeatUpTo, ends]
      by_cases hend : place = text.length
      · have hnone : text[place]? = none := List.getElem?_eq_none_iff.mpr (Nat.le_of_eq hend.symm)
        have hone : text.length + 1 - place = 1 := by omega
        rw [hnone, hone]
        rfl
      · have hlt : place < text.length := by omega
        have hmore : text.length + 1 - place = text.length + 1 - (place + 1) + 1 := by omega
        rw [List.getElem?_eq_getElem hlt, Option.any_some, has_anyChar, if_pos rfl, hmore,
          List.range'_succ, List.flatMap_cons, List.flatMap_nil, List.append_nil,
          ih (place + 1) hlt (by omega)]
        rfl
  rw [anyText, ends]
  have hlazy := hrepeat text.length place h (Nat.sub_le _ _)
  simpa [repeatExactly] using hlazy

theorem ends_literal_of_starts (h : closing <+: text.drop place) :
    ends text (afterLiteral closing .empty) place = [place + closing.length] :=
  ends_afterLiteral_of_starts h

/-- A match of a block comment has room for both of its literals. -/
theorem le_of_mem_ends_block (hplace : place ≤ text.length) {stop : Nat}
    (h : stop ∈ ends text (block opening closing) place) :
    place + opening.length + closing.length ≤ stop ∧ stop ≤ text.length := by
  by_cases hopening : opening <+: text.drop place
  · have hlength := hopening.length_le
    rw [List.length_drop] at hlength
    rw [block, ends_afterLiteral_of_starts hopening, ends, ends_anyText (by omega),
      List.mem_flatMap] at h
    obtain ⟨middle, hmiddle, hstop⟩ := h
    obtain ⟨hle, hlt⟩ := List.mem_range'_1.mp hmiddle
    by_cases hclosing : closing <+: text.drop middle
    · have hroom := hclosing.length_le
      rw [List.length_drop] at hroom
      rw [ends_literal_of_starts hclosing, List.mem_singleton] at hstop
      omega
    · rw [ends_afterLiteral_of_not_starts hclosing] at hstop
      exact absurd hstop List.not_mem_nil
  · rw [block, ends_afterLiteral_of_not_starts hopening] at h
    exact absurd h List.not_mem_nil

/-- A text shorter than both literals together is no block comment. -/
theorem isMatch_anchoredBlock_of_short {text : String}
    (h : text.toList.length < opening.length + closing.length) :
    (anchoredBlock opening closing).isMatch text = false := by
  have hiff := isMatch_anchored_iff (block opening closing) text
  rw [← Bool.not_eq_true, anchoredBlock]
  intro hmatch
  have hle := le_of_mem_ends_block (Nat.zero_le _) (hiff.mp hmatch)
  omega

/-- The match that starts with the opening literal ends where the closing literal first occurs. -/
theorem head?_ends_block_of_first {before after : List Char}
    (h : FirstOccurrence closing text before after) :
    (ends (opening ++ text) (block opening closing) 0).head? =
      some (opening.length + before.length + closing.length) := by
  have hopening : opening <+: (opening ++ text).drop 0 := List.prefix_append opening text
  have hlength := h.length_eq
  have hsplit : (opening ++ text).length + 1 - opening.length =
      before.length + ((closing.length + after.length) + 1) := by
    rw [List.length_append]
    omega
  rw [block, ends_afterLiteral_of_starts hopening, Nat.zero_add, ends,
    ends_anyText (by rw [List.length_append]; omega), List.head?_flatMap, hsplit,
    ← List.range'_append_1, List.findSome?_append]
  -- No closing literal starts at any of the places before the first occurrence.
  have hnone : (List.range' opening.length before.length).findSome? (fun place =>
      (ends (opening ++ text) (afterLiteral closing .empty) place).head?) = none := by
    rw [List.findSome?_eq_none_iff]
    intro place hplace
    obtain ⟨hle, hlt⟩ := List.mem_range'_1.mp hplace
    have hnot : ¬ closing <+: (opening ++ text).drop place := by
      have hplace : place = opening.length + (place - opening.length) := by omega
      rw [hplace, List.drop_length_add_append]
      exact h.first _ (by omega)
    rw [ends_afterLiteral_of_not_starts hnot]
    rfl
  have hhere : closing <+: (opening ++ text).drop (opening.length + before.length) := by
    rw [List.drop_length_add_append]
    exact h.isPrefix_drop
  rw [hnone, Option.none_or, List.range'_succ, List.findSome?_cons, ends_literal_of_starts hhere]
  rfl

/-- Nothing is matched after an opening literal if the closing one does not occur. -/
theorem ends_block_of_not_infix (h : ¬ closing <:+: text) :
    ends (opening ++ text) (block opening closing) 0 = [] := by
  have hopening : opening <+: (opening ++ text).drop 0 := List.prefix_append opening text
  rw [block, ends_afterLiteral_of_starts hopening, Nat.zero_add, ends,
    ends_anyText (by rw [List.length_append]; omega), List.flatMap_eq_nil_iff]
  intro place hplace
  obtain ⟨hle, _⟩ := List.mem_range'_1.mp hplace
  refine ends_afterLiteral_of_not_starts ?_
  have hplace : place = opening.length + (place - opening.length) := by omega
  rw [hplace, List.drop_length_add_append]
  exact Text.not_isPrefix_drop_of_not_infix h _

end Pattern

end Regex

/-! ## The terminal -/

namespace TerminalPattern

variable {opening closing : String}

/-- The pattern of a block comment and the one that is anchored are made of their two literals. -/
theorem compile_block_eq (hopening : opening ≠ "") (closing : String) :
    (Regex.compile (Pattern.block opening closing) =
      if (Regex.Pattern.block opening.toList closing.toList).size ≤ Regex.Pattern.maxSize then
        .ok (Regex.Pattern.block opening.toList closing.toList)
      else .error .tooBig) ∧
    (Regex.compile (anchored (Pattern.block opening closing)) =
      if (Regex.Pattern.anchoredBlock opening.toList closing.toList).size ≤ Regex.Pattern.maxSize then
        .ok (Regex.Pattern.anchoredBlock opening.toList closing.toList)
      else .error .tooBig) := by
  have hchars : opening.toList ≠ [] := fun h => hopening (String.toList_eq_nil_iff.mp h)
  exact ⟨(Regex.spells_block hchars closing).compile_eq,
    (Regex.spells_anchoredBlock hchars closing).compile_eq⟩

/-- The pattern of a block comment is refused for nothing but its size. -/
theorem compile_block (hopening : opening ≠ "")
    (hsize : compile (Pattern.block opening closing) ≠ .error .tooBig) :
    compile (Pattern.block opening closing) = .ok ⟨Pattern.block opening closing,
      Regex.Pattern.block opening.toList closing.toList,
      Regex.Pattern.anchoredBlock opening.toList closing.toList⟩ := by
  obtain ⟨hsearch, hfull⟩ := compile_block_eq hopening closing
  rw [compile, hsearch, hfull] at hsize ⊢
  split at hsize
  · split at hsize
    · rename_i hfirst hsecond
      rw [if_pos hfirst, if_pos hsecond]
      rfl
    · exact absurd rfl hsize
  · exact absurd rfl hsize

/-- Delimiters in ASCII would have to be very long for their pattern to be refused. -/
theorem compile_block_ne_tooBig (hopening : opening ≠ "")
    (hascii : ∀ c ∈ opening.toList ++ closing.toList, c.toNat < 0x80)
    (hshort : opening.toList.length + closing.toList.length ≤ 100000) :
    compile (Pattern.block opening closing) ≠ .error .tooBig := by
  have hblock := Regex.size_block_of_ascii hascii
  have hanchored := Regex.size_anchoredBlock opening.toList closing.toList
  have hmax : Regex.Pattern.maxSize = 10485760 := rfl
  obtain ⟨hsearch, hfull⟩ := compile_block_eq hopening closing
  rw [if_pos (by omega)] at hsearch hfull
  rw [compile, hsearch, hfull]
  intro hsame
  cases hsame

end TerminalPattern

end EditorBridge
