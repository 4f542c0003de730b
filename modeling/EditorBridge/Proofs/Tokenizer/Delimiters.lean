import EditorBridge.Proofs.Tokenizer.Agreement
import EditorBridge.Proofs.Tokenizer.BlockPattern
/-!
Delimiters of patterns.  Where the scan of a pattern ends between atoms, the delimiters are the literal
characters at the two ends of its atoms.  An escaped literal is scanned as literal atoms, whatever was scanned
before it, and a gap of any text as one atom that is not literal; so two escaped literals around a gap come back
as they were (`delimiters_recovered`).
-/

set_option autoImplicit false

namespace EditorBridge

namespace Delimiters

/-! ## Literal ends -/

theorem literals_append (literal : List Char) (rest : List Atom) :
    literals (literal.map Atom.literal ++ rest) = literal ++ literals rest := by
  induction literal with
  | nil => rfl
  | cons c literal ih => rw [List.map_cons, List.cons_append, literals, ih, List.cons_append]

theorem literals_of_head? {atoms : List Atom} (h : atoms.head? = some .other) (rest : List Atom) :
    literals (atoms ++ rest) = [] := by
  obtain ⟨atoms, rfl⟩ := List.head?_eq_some_iff.mp h
  rfl

theorem literals_map (literal : List Char) : literals (literal.map Atom.literal) = literal := by
  have happend := literals_append literal []
  have hnil : literals [] = [] := rfl
  rwa [hnil, List.append_nil, List.append_nil] at happend

theorem length_literals_eq_iff (atoms : List Atom) :
    (literals atoms).length = atoms.length ↔ .other ∉ atoms := by
  induction atoms with
  | nil => exact ⟨fun _ => List.not_mem_nil, fun _ => rfl⟩
  | cons atom atoms ih =>
    cases atom with
    | other => simp [literals]
    | literal c => simp [literals, ih]

/-- The literal characters at the end of a list of atoms. -/
def trailing (atoms : List Atom) : List Char := (literals atoms.reverse).reverse

theorem trailing_append_literal {before : List Atom} (h : before.getLast? = some .other) (text : List Char) :
    trailing (before ++ text.map .literal) = text := by
  have hhead : before.reverse.head? = some .other := by rwa [List.head?_reverse]
  have hnone : literals before.reverse = [] := by
    have hempty := literals_of_head? hhead []
    rwa [List.append_nil] at hempty
  rw [trailing, List.reverse_append, ← List.map_reverse, literals_append, hnone, List.append_nil,
    List.reverse_reverse]

theorem Scan.Ready.finish_eq {scan : Scan} (h : scan.Ready) : scan.finish = scan := by
  unfold Scan.finish
  obtain ⟨-, hmode | ⟨hmode, -⟩⟩ := h <;> rw [hmode]

/-- The delimiters of a pattern that is scanned to its end, given the atoms in the order of the text. -/
theorem ofPattern_of_ready {source : String} (h : (source.toList.foldl Scan.step {}).Ready) {atoms : List Atom}
    (hatoms : (source.toList.foldl Scan.step {}).atoms.reverse = atoms) : ofPattern source =
      ⟨String.ofList (literals atoms), if .other ∈ atoms then String.ofList (trailing atoms) else ""⟩ := by
  have hscan : (source.toList.foldl Scan.step {}).atoms = atoms.reverse := List.reverse_eq_iff.mp hatoms
  rw [ofPattern, h.finish_eq]
  simp only [h.reading, hscan, List.reverse_reverse, Bool.false_eq_true, if_false, length_literals_eq_iff]
  by_cases hmem : .other ∈ atoms
  · rw [if_neg (not_not_intro hmem), if_pos hmem, trailing]
  · rw [if_pos hmem, if_neg hmem]

/-! ## Escaped literals and gaps -/

/-- What may stand between two delimiters: any text, or any text without a line break, and of it as little or as
much as possible. -/
inductive Gap
  | shortest
  | longest
  | shortestInLine
  | longestInLine

def Gap.pattern : Gap → String
  | shortest => "[\\s\\S]*?"
  | longest => "[\\s\\S]*"
  | shortestInLine => ".*?"
  | longestInLine => ".*"

namespace Scan

variable {scan scan' : Scan}

theorem escapeAtom_of_metacharacter {c : Char} (hc : c ∈ Pattern.metacharacters) : escapeAtom c = .literal c := by
  simp only [Pattern.metacharacters, List.mem_cons, List.not_mem_nil, or_false] at hc
  rcases hc with rfl | rfl | rfl | rfl | rfl | rfl | rfl | rfl | rfl | rfl | rfl | rfl | rfl | rfl | rfl <;> rfl

/-- An escaped character is scanned as a literal atom.  No escape of a sign with a meaning of its own stands for
something else, and a character that needs no escape neither opens anything nor repeats the atom before it. -/
theorem Ready.adds_escapeChar (h : scan.Ready) (c : Char) :
    scan.Adds [.literal c] ((Pattern.escapeChar c).foldl step scan) := by
  by_cases hc : c ∈ Pattern.metacharacters
  · rw [Pattern.escapeChar_of_mem hc, h.foldl_escape, escapeAtom_of_metacharacter hc]
    exact h.adds_push _
  · have hspecial : c ∉ special := by
      have hsubset : special ⊆ Pattern.metacharacters := by decide
      exact fun hmem => hc (hsubset hmem)
    have hatom : charAtom c = .literal c := by
      simp only [Pattern.metacharacters, List.mem_cons, List.not_mem_nil, or_false, not_or] at hc
      simp [charAtom, hc]
    rw [Pattern.escapeChar_of_not_mem hc, ← hatom]
    exact h.adds_char hspecial

/-- An escaped literal is scanned as literal atoms. -/
theorem Ready.adds_literal (h : scan.Ready) (literal : List Char) :
    scan.Adds (literal.map Atom.literal).reverse
      ((literal.flatMap Pattern.escapeChar).foldl step scan) := by
  induction literal generalizing scan with
  | nil => exact ⟨h, rfl, rfl⟩
  | cons c literal ih =>
    have hfirst := h.adds_escapeChar c
    rw [List.flatMap_cons, List.foldl_append, List.map_cons, List.reverse_cons]
    exact hfirst.trans (ih hfirst.ready)

theorem Adds.star (h : scan.Adds [.other] scan') : scan.Adds [.other] (scan'.step '*') :=
  h.repeated (h.ready.repeats_step (by simp [h.atoms]) (Or.inr (Or.inl rfl)))

theorem Adds.lazy (h : scan.Adds [.other] scan') : scan.Adds [.other] (scan'.step '?') :=
  h.repeated (h.ready.repeats_step (by simp [h.atoms]) (Or.inl rfl))

/-- A gap is scanned as one atom that is not literal. -/
theorem Ready.adds_gap (h : scan.Ready) (gap : Gap) :
    scan.Adds [.other] (gap.pattern.toList.foldl step scan) := by
  have hinLine : scan.Adds [.other] (scan.step '.') := by
    have hdot : '.' ∉ special := by decide
    exact h.adds_char hdot
  have hany : scan.Adds [.other] ("[\\s\\S]".toList.foldl step scan) := by
    have hopen : scan.step '[' = { scan.push .other with mode := .classOpened } :=
      h.step_eq (by decide) (by decide)
    have hclass : "[\\s\\S]".toList.foldl step scan = scan.push .other := by
      have hchars : "[\\s\\S]".toList = ['[', '\\', 's', '\\', 'S', ']'] := rfl
      obtain ⟨mode, atoms, depth, alternation⟩ := scan
      cases h.reading
      rw [hchars, List.foldl_cons, hopen]
      rfl
    rw [hclass]
    exact h.adds_push _
  cases gap with
  | shortest => exact hany.star.lazy
  | longest => exact hany.star
  | shortestInLine => exact hinLine.star.lazy
  | longestInLine => exact hinLine.star

end Scan

theorem ready_start : Scan.Ready {} := ⟨rfl, Or.inl rfl⟩

/-- Two escaped literals around a gap are its delimiters. -/
theorem ofPattern_around (gap : Gap) (opening closing : String) :
    ofPattern (Pattern.escape opening ++ gap.pattern ++ Pattern.escape closing) = ⟨opening, closing⟩ := by
  have hopening := ready_start.adds_literal opening.toList
  have hgap := hopening.trans (hopening.ready.adds_gap gap)
  have hclosing := hgap.trans (hgap.ready.adds_literal closing.toList)
  have htext : (Pattern.escape opening ++ gap.pattern ++ Pattern.escape closing).toList =
      opening.toList.flatMap Pattern.escapeChar ++
        (gap.pattern.toList ++ closing.toList.flatMap Pattern.escapeChar) := by
    simp [Pattern.escape]
  rw [← List.foldl_append, ← List.foldl_append, ← htext] at hclosing
  have hatoms : ((Pattern.escape opening ++ gap.pattern ++ Pattern.escape closing).toList.foldl
      Scan.step {}).atoms.reverse =
      opening.toList.map .literal ++ [.other] ++ closing.toList.map .literal := by
    rw [hclosing.atoms]
    simp
  rw [ofPattern_of_ready hclosing.ready hatoms, trailing_append_literal List.getLast?_concat,
    List.append_assoc, literals_append, literals_of_head? rfl, List.append_nil, if_pos (by simp),
    String.ofList_toList, String.ofList_toList]

/-- The delimiters of a block comment are its two literals. -/
theorem ofPattern_block (opening closing : String) :
    ofPattern (Pattern.block opening closing) = ⟨opening, closing⟩ :=
  ofPattern_around .shortest opening closing

/-- An escaped literal is its own opening delimiter, and there is no closing one. -/
theorem ofPattern_literal (literal : String) : ofPattern (Pattern.escape literal) = ⟨literal, ""⟩ := by
  have hliteral := ready_start.adds_literal literal.toList
  have htext : literal.toList.flatMap Pattern.escapeChar = (Pattern.escape literal).toList := by
    rw [Pattern.escape, String.toList_ofList]
  rw [htext] at hliteral
  have hatoms : ((Pattern.escape literal).toList.foldl Scan.step {}).atoms.reverse =
      literal.toList.map .literal := by
    rw [hliteral.atoms]
    simp
  rw [ofPattern_of_ready hliteral.ready hatoms, literals_map, if_neg (by simp), String.ofList_toList]

/-- **Escaped delimiters are recovered**: whatever two literals are, escaping them and putting any text between
them gives a pattern whose delimiters are these literals; and an escaped literal alone is its own opening
delimiter. -/
theorem delimiters_recovered (opening closing : String) :
    (∀ gap : Gap, ofPattern (Pattern.escape opening ++ gap.pattern ++ Pattern.escape closing) =
      ⟨opening, closing⟩) ∧
    ofPattern (Pattern.escape opening) = ⟨opening, ""⟩ :=
  ⟨fun gap => ofPattern_around gap opening closing, ofPattern_literal opening⟩

end Delimiters

end EditorBridge
