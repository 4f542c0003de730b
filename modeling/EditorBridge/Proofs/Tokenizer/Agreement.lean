import EditorBridge.Proofs.Regex.Extent
import EditorBridge.Tokenizer.Delimiters
/-!
Where the scan for delimiters reads a pattern as it is meant.  `Delimiters.readsAlike` says of a pattern that
the scan gives every construct the extent it has: no escape is longer than the scan takes it to be, no class
is inside another one, and no switch changes how the literals around a construct read.  Under it each kind of
text that the reader of patterns takes off has one effect on the scan.
-/

set_option autoImplicit false

namespace EditorBridge.Delimiters

open Regex.Parser

/-! ## Agreement -/

/-- What is behind the question mark of a group. -/
def switchText : List Char → List Char
  | '?' :: rest => rest
  | _ => []

/-- The name of a group, given what is behind its parenthesis; the text is empty where there is none. -/
def nameText : List Char → List Char
  | '?' :: '<' :: rest => rest.takeWhile (· != '>')
  | '?' :: 'P' :: '<' :: rest => rest.takeWhile (· != '>')
  | _ => []

/-- Whether switches stand alone in their parentheses. -/
def setsSwitches (text : List Char) : Bool := (text.dropWhile isSwitch).head? == some ')'

/-- The name of a property, given what is behind its letter. -/
def propertyText : List Char → List Char
  | '{' :: rest => rest.takeWhile (· != '}')
  | rest => rest.take 1

namespace Scan

/-- Whether a group reads as it is scanned: blanks are not ignored in it, outside of all groups it does not
begin to ignore case for what follows, and no bracket is in its name. -/
def agreesOnGroup (scan : Scan) (rest : List Char) : Bool :=
  let switches := switchedOn (switchText rest)
  !switches.contains 'x' && !(scan.depth == 0 && setsSwitches (switchText rest) && switches.contains 'i') &&
    !(nameText rest).contains '['

/-- Whether the next character means what it is scanned as, given what follows it.  The name of a property
in a class holds neither a bracket nor a backslash. -/
def agrees (scan : Scan) (c : Char) (rest : List Char) : Bool :=
  scan.alternation ||
    match scan.mode with
    | .plain | .quantified => c != '(' || scan.agreesOnGroup rest
    | .escaped =>
      c != '<' && c != '>' && (!(['x', 'u', 'U', 'p', 'P'].contains c) || rest.head? == some '{')
    | .classOpened | .classStart | .inClass => c != '['
    | .escapedInClass =>
      !(['p', 'P'].contains c) || !((propertyText rest).contains ']' || (propertyText rest).contains '\\')
    | .counted => true

/-- Whether all characters mean what they are scanned as. -/
def agreesOn (scan : Scan) : List Char → Bool
  | [] => true
  | c :: rest => scan.agrees c rest && (scan.step c).agreesOn rest

end Scan

/-- Whether a pattern reads as it is scanned. -/
def readsAlike (pattern : String) : Bool := ({} : Scan).agreesOn pattern.toList

namespace Scan

variable {scan scan' : Scan} {c : Char} {text rest : List Char}

theorem agreesOn_cons : scan.agreesOn (c :: rest) = true ↔
    scan.agrees c rest = true ∧ (scan.step c).agreesOn rest = true := by
  rw [agreesOn, Bool.and_eq_true]

theorem agreesOn_append (h : scan.agreesOn (text ++ rest) = true) :
    (text.foldl step scan).agreesOn rest = true := by
  induction text generalizing scan with
  | nil => exact h
  | cons c text ih => exact ih (agreesOn_cons.mp h).2

/-! ## Single characters -/

/-- The scan is between atoms: no alternation has ended it, and a quantifier that may go on has an atom that
is not literal before it. -/
structure Ready (scan : Scan) : Prop where
  reading : scan.alternation = false
  between : scan.mode = .plain ∨ scan.mode = .quantified ∧ scan.atoms.head? = some .other

theorem Ready.step_eq (h : scan.Ready) (hquestion : c ≠ '?') (hplus : c ≠ '+') :
    scan.step c = scan.start c := by
  obtain ⟨hreading, hmode | ⟨hmode, -⟩⟩ := h
  · simp [step, hreading, hmode]
  · simp [step, hreading, hmode, hquestion, hplus]

/-- The scan has taken in atoms and is between atoms again. -/
structure Adds (scan : Scan) (added : List Atom) (scan' : Scan) : Prop where
  ready : scan'.Ready
  atoms : scan'.atoms = added ++ scan.atoms
  depth : scan'.depth = scan.depth

theorem Adds.trans {added added' : List Atom} {scan'' : Scan} (h : scan.Adds added scan')
    (h' : scan'.Adds added' scan'') : scan.Adds (added' ++ added) scan'' :=
  ⟨h'.ready, by rw [h'.atoms, h.atoms, List.append_assoc], h'.depth.trans h.depth⟩

theorem Ready.adds_push (h : scan.Ready) (atom : Atom) : scan.Adds [atom] (scan.push atom) :=
  ⟨⟨h.reading, Or.inl rfl⟩, rfl, rfl⟩

/-- The characters that begin or end something longer than an atom, or repeat one. -/
def special : List Char := ['\\', '[', '(', ')', '|', '*', '+', '?', '{']

/-- The atom of a character that stands alone. -/
def charAtom (c : Char) : Atom := if c = '.' || c = '^' || c = '$' then .other else .literal c

theorem Ready.adds_char (h : scan.Ready) (hc : c ∉ special) : scan.Adds [charAtom c] (scan.step c) := by
  simp only [special, List.mem_cons, List.not_mem_nil, or_false, not_or] at hc
  obtain ⟨hescape, hclass, hopen, hclose, hbar, hstar, hplus, hquestion, hbrace⟩ := hc
  have hstep : scan.step c = scan.push (charAtom c) := by
    rw [h.step_eq hquestion hplus, start, charAtom]
    simp only [hescape, hclass, hopen, hclose, hbar, hstar, hplus, hquestion, hbrace, if_false, decide_false,
      Bool.or_false, Bool.false_eq_true]
    split <;> rfl
  exact hstep ▸ h.adds_push _

/-- Characters that stand alone add one atom each. -/
theorem Ready.adds_chars (h : scan.Ready) (htext : ∀ c ∈ text, c ∉ special) :
    ∃ added, scan.Adds added (text.foldl step scan) := by
  induction text generalizing scan with
  | nil => exact ⟨[], h, rfl, rfl⟩
  | cons c text ih =>
    have hfirst := h.adds_char (htext c List.mem_cons_self)
    obtain ⟨added, hrest⟩ := ih hfirst.ready fun d hd => htext d (List.mem_cons_of_mem _ hd)
    exact ⟨added ++ [charAtom c], hfirst.trans hrest⟩

/-! ## Quantifiers -/

/-- The scan has repeated the last atom. -/
structure Repeats (scan scan' : Scan) : Prop where
  ready : scan'.Ready
  atoms : scan'.atoms = .other :: scan.atoms.tail
  depth : scan'.depth = scan.depth

theorem Repeats.trans {scan'' : Scan} (h : scan.Repeats scan') (h' : scan'.Repeats scan'') :
    scan.Repeats scan'' :=
  ⟨h'.ready, by rw [h'.atoms, h.atoms, List.tail_cons], h'.depth.trans h.depth⟩

theorem repeats_quantify (hreading : scan.alternation = false) (hatoms : scan.atoms ≠ []) :
    scan.Repeats scan.quantify := by
  obtain ⟨atom, atoms, hcons⟩ := List.exists_cons_of_ne_nil hatoms
  simp only [quantify, hcons]
  exact ⟨⟨hreading, Or.inr ⟨rfl, rfl⟩⟩, by rw [hcons]; rfl, rfl⟩

/-- A quantifier of one character, which can be the suffix of the one before it. -/
theorem Ready.repeats_step (h : scan.Ready) (hatoms : scan.atoms ≠ []) (hc : c = '?' ∨ c = '*' ∨ c = '+') :
    scan.Repeats (scan.step c) := by
  have hstart : scan.start c = scan.quantify := by rcases hc with rfl | rfl | rfl <;> rfl
  obtain ⟨hreading, hmode | ⟨hmode, hlast⟩⟩ := h
  · have hstep : scan.step c = scan.start c := by simp [step, hreading, hmode]
    rw [hstep, hstart]
    exact repeats_quantify hreading hatoms
  · by_cases hsuffix : (c = '?' || c = '+') = true
    · have hstep : scan.step c = { scan with mode := .plain } := by simp only [step, hreading, hmode, hsuffix,
        if_true, Bool.false_eq_true, if_false]
      obtain ⟨atoms, hcons⟩ := List.head?_eq_some_iff.mp hlast
      rw [hstep]
      exact ⟨⟨hreading, Or.inl rfl⟩, by simp [hcons], rfl⟩
    · have hstep : scan.step c = scan.start c := by simp only [step, hreading, hmode, hsuffix,
        Bool.false_eq_true, if_false]
      rw [hstep, hstart]
      exact repeats_quantify hreading hatoms

/-- A question mark behind a quantifier. -/
theorem Repeats.lazy (h : scan.Repeats scan') : scan.Repeats (scan'.step '?') :=
  h.trans (h.ready.repeats_step (by simp [h.atoms]) (Or.inl rfl))

theorem foldl_counted (hreading : scan.alternation = false) (hmode : scan.mode = .counted)
    (hbrace : '}' ∉ text) : text.foldl step scan = scan := by
  induction text with
  | nil => rfl
  | cons c text ih =>
    obtain ⟨hc, htext⟩ := not_or.mp fun h => hbrace (List.mem_cons.mpr h)
    have hstep : scan.step c = scan := by simp [step, hreading, hmode, Ne.symm hc]
    rw [List.foldl_cons, hstep]
    exact ih htext

/-- Bounds in braces quantify the last atom. -/
theorem Ready.repeats_braces (h : scan.Ready) (hatoms : scan.atoms ≠ []) (hbrace : '}' ∉ text) :
    scan.Repeats (('{' :: text ++ ['}']).foldl step scan) := by
  have hopen : scan.step '{' = { scan with mode := .counted } := h.step_eq (by decide) (by decide)
  have hclose : step { scan with mode := .counted } '}' = quantify { scan with mode := .counted } := by
    simp [step, h.reading]
  have hcounted : text.foldl step { scan with mode := .counted } = { scan with mode := .counted } :=
    foldl_counted h.reading rfl hbrace
  rw [List.cons_append, List.foldl_cons, hopen, List.foldl_append, hcounted, List.foldl_cons, hclose]
  have hquantify : Repeats { scan with mode := .counted } (quantify { scan with mode := .counted }) :=
    repeats_quantify h.reading hatoms
  exact ⟨hquantify.ready, hquantify.atoms, hquantify.depth⟩

theorem Adds.repeated {atom : Atom} {added : List Atom} {scan'' : Scan} (h : scan.Adds (atom :: added) scan')
    (hrepeats : scan'.Repeats scan'') : scan.Adds (.other :: added) scan'' :=
  ⟨hrepeats.ready, by rw [hrepeats.atoms, h.atoms]; rfl, hrepeats.depth.trans h.depth⟩

/-! ## Escapes -/

theorem not_mem_of_allHex {digits : List Char} (h : AllHex digits) (hc : CharSet.hexDigit? c = Option.none) :
    c ∉ digits := by
  intro hmem
  have hsome := h c hmem
  rw [hc] at hsome
  contradiction

theorem Ready.foldl_escape (h : scan.Ready) :
    ('\\' :: c :: text).foldl step scan = text.foldl step (scan.push (escapeAtom c)) := by
  have hescape : scan.step '\\' = { scan with mode := .escaped } := h.step_eq (by decide) (by decide)
  have hatom : step { scan with mode := .escaped } c = scan.push (escapeAtom c) := by
    simp [step, h.reading, push]
  rw [List.foldl_cons, hescape, List.foldl_cons, hatom]

theorem Ready.agrees_escape (h : scan.Ready) (hagrees : scan.agreesOn ('\\' :: c :: rest) = true) :
    c ≠ '<' ∧ c ≠ '>' ∧ (c ∈ ['x', 'u', 'U', 'p', 'P'] → rest.head? = some '{') := by
  have hescape : scan.step '\\' = { scan with mode := .escaped } := h.step_eq (by decide) (by decide)
  have hnext := (agreesOn_cons.mp (agreesOn_cons.mp hagrees).2).1
  rw [hescape] at hnext
  simp only [agrees, h.reading, Bool.false_or, Bool.and_eq_true, Bool.not_eq_true', Bool.or_eq_true,
    bne_iff_ne, beq_iff_eq, List.contains_eq_mem, decide_eq_false_iff_not] at hnext
  obtain ⟨⟨hopen, hclose⟩, hbrace⟩ := hnext
  exact ⟨hopen, hclose, fun hc => hbrace.resolve_left fun hnot => hnot hc⟩

/-- An escape adds the atom of its character, or one that is not literal if there is more to it. -/
theorem Ready.adds_escape (h : scan.Ready) (htail : EscapeTail c text)
    (hagrees : scan.agreesOn ('\\' :: c :: text ++ rest) = true) :
    ∃ atom, scan.Adds [atom] (('\\' :: c :: text).foldl step scan) ∧
      (text = [] ∧ atom = escapeAtom c ∨ atom = .other) := by
  have hfirst := h.adds_push (escapeAtom c)
  rw [h.foldl_escape]
  have hbraces : ∀ {name : List Char}, '}' ∉ name →
      scan.Adds [.other] (('{' :: name ++ ['}']).foldl step (scan.push (escapeAtom c))) := by
    intro name hname
    exact hfirst.repeated (hfirst.ready.repeats_braces (List.cons_ne_nil _ _) hname)
  have hlong := (h.agrees_escape hagrees).2.2
  cases htail with
  | bare hc => exact ⟨escapeAtom c, hfirst, Or.inl ⟨rfl, rfl⟩⟩
  | code hc hdigits =>
    have hbrace := hlong (List.mem_append_left ['p', 'P'] hc)
    cases hbrace
    exact absurd (hdigits '{' List.mem_cons_self) (by decide)
  | bracedCode hc hdigits => exact ⟨.other, hbraces (not_mem_of_allHex hdigits rfl), Or.inr rfl⟩
  | letter hc hbrace hescape =>
    exact absurd (Option.some.inj (hlong (List.mem_append_right ['x', 'u', 'U'] hc))) hbrace
  | name hc hname => exact ⟨.other, hbraces hname, Or.inr rfl⟩
  | boundary hname =>
    exact ⟨.other, hbraces fun hmem => absurd (hname '}' hmem) (by decide), Or.inr rfl⟩

/-! ## Classes -/

/-- The scan is inside a class. -/
structure InClass (scan : Scan) : Prop where
  reading : scan.alternation = false
  mode : scan.mode = .inClass

theorem InClass.step_eq (h : scan.InClass) (hescape : c ≠ '\\') (hclose : c ≠ ']') : scan.step c = scan := by
  obtain ⟨mode, atoms, depth, alternation⟩ := scan
  obtain ⟨rfl, rfl⟩ := h
  simp [step, classChar, hescape, hclose]

theorem InClass.foldl_eq (h : scan.InClass) (hescape : '\\' ∉ text) (hclose : ']' ∉ text) :
    text.foldl step scan = scan := by
  induction text with
  | nil => rfl
  | cons c text ih =>
    rw [List.mem_cons, not_or] at hescape hclose
    rw [List.foldl_cons, h.step_eq (Ne.symm hescape.1) (Ne.symm hclose.1)]
    exact ih hescape.2 hclose.2

/-- No class is opened inside another one. -/
theorem InClass.ne_open (h : scan.InClass) (hagrees : scan.agreesOn (c :: rest) = true) : c ≠ '[' := by
  have hnext := (agreesOn_cons.mp hagrees).1
  simpa [agrees, h.reading, h.mode] using hnext

theorem InClass.agrees_escape (h : scan.InClass) (hagrees : scan.agreesOn ('\\' :: c :: rest) = true)
    (hc : c ∈ ['p', 'P']) : ']' ∉ propertyText rest ∧ '\\' ∉ propertyText rest := by
  have hescape : scan.step '\\' = { scan with mode := .escapedInClass } := by
    simp [step, classChar, h.reading, h.mode]
  have hnext := (agreesOn_cons.mp (agreesOn_cons.mp hagrees).2).1
  rw [hescape] at hnext
  simp only [agrees, h.reading, Bool.false_or, Bool.not_eq_true', Bool.or_eq_true, Bool.or_eq_false_iff,
    List.contains_eq_mem, decide_eq_false_iff_not] at hnext
  exact hnext.resolve_left fun hnot => hnot hc

/-- What belongs to an escape in a class neither closes the class nor is another escape. -/
theorem InClass.escapeTail (h : scan.InClass) (htail : EscapeTail c text)
    (hagrees : scan.agreesOn ('\\' :: c :: text ++ rest) = true) : '\\' ∉ text ∧ ']' ∉ text := by
  have hbraces : ∀ {name : List Char}, '\\' ∉ name → ']' ∉ name →
      '\\' ∉ '{' :: name ++ ['}'] ∧ ']' ∉ '{' :: name ++ ['}'] := by
    intro name hescape hclose
    simp [hescape, hclose]
  have hagrees : scan.agreesOn ('\\' :: c :: (text ++ rest)) = true := hagrees
  cases htail with
  | bare hc => exact ⟨List.not_mem_nil, List.not_mem_nil⟩
  | code hc hdigits => exact ⟨not_mem_of_allHex hdigits rfl, not_mem_of_allHex hdigits rfl⟩
  | bracedCode hc hdigits => exact hbraces (not_mem_of_allHex hdigits rfl) (not_mem_of_allHex hdigits rfl)
  | @letter _ d hc hbrace hescape =>
    have hname := (h.agrees_escape hagrees hc).1
    have htext : propertyText ([d] ++ rest) = [d] := by
      rw [List.singleton_append]
      unfold propertyText
      split
      · rename_i heq
        exact absurd (List.cons.inj heq).1 hbrace
      · rfl
    rw [htext] at hname
    exact ⟨by simpa using Ne.symm hescape, hname⟩
  | @name _ name hc hbrace =>
    have htext : propertyText ('{' :: name ++ ['}'] ++ rest) = name := by
      rw [List.append_assoc, List.cons_append, propertyText, List.singleton_append, takeWhile_ne hbrace]
    obtain ⟨hclose, hescape⟩ := h.agrees_escape hagrees hc
    rw [htext] at hclose hescape
    exact hbraces hescape hclose
  | boundary hname =>
    exact hbraces (fun hmem => absurd (hname _ hmem) (by decide)) fun hmem => absurd (hname _ hmem) (by decide)

/-- The members of a class leave the scan where it is. -/
theorem InClass.foldl_member (h : scan.InClass) (hmember : MemberText text) (hclose : text.head? ≠ some ']')
    (hagrees : scan.agreesOn (text ++ rest) = true) : text.foldl step scan = scan := by
  cases hmember with
  | char hc => exact h.step_eq hc fun heq => hclose (congrArg some heq)
  | @escape c tail htail =>
    obtain ⟨hescape, hbracket⟩ := h.escapeTail htail hagrees
    have hfirst : [('\\' : Char), c].foldl step scan = scan := by
      obtain ⟨mode, atoms, depth, alternation⟩ := scan
      obtain ⟨rfl, rfl⟩ := h
      simp [step, classChar]
    have hsplit : '\\' :: c :: tail = ['\\', c] ++ tail := rfl
    rw [hsplit, List.foldl_append, hfirst]
    exact h.foldl_eq hescape hbracket

/-- The scan is inside a class, or will be with the next character. -/
structure Enters (scan : Scan) (text : List Char) : Prop where
  reading : scan.alternation = false
  mode : scan.mode = .inClass ∨ scan.mode = .classStart ∧ text.head? ≠ some ']' ∨
    scan.mode = .classOpened ∧ text.head? ≠ some ']' ∧ text.head? ≠ some '^'

/-- The scan as it is inside a class. -/
def inside (scan : Scan) : Scan := { scan with mode := .inClass }

theorem Enters.step_inside (h : scan.Enters (c :: text)) : scan.step c = scan.inside.step c := by
  obtain ⟨mode, atoms, depth, alternation⟩ := scan
  obtain ⟨rfl, rfl | ⟨rfl, hclose⟩ | ⟨rfl, hclose, hcaret⟩⟩ := h
  · rfl
  · have hclose : c ≠ ']' := fun heq => hclose (congrArg some heq)
    simp [step, inside, classChar, hclose]
  · have hclose : c ≠ ']' := fun heq => hclose (congrArg some heq)
    have hcaret : c ≠ '^' := fun heq => hcaret (congrArg some heq)
    simp [step, inside, classChar, hclose, hcaret]

theorem Enters.agreesOn_inside (h : scan.Enters text) (hagrees : scan.agreesOn text = true) :
    scan.inside.agreesOn text = true := by
  cases text with
  | nil => rfl
  | cons c text =>
    obtain ⟨hfirst, hrest⟩ := agreesOn_cons.mp hagrees
    rw [h.step_inside] at hrest
    refine agreesOn_cons.mpr ⟨?_, hrest⟩
    obtain ⟨hreading, hmode | ⟨hmode, -⟩ | ⟨hmode, -⟩⟩ := h <;>
      simpa [agrees, inside, hreading, hmode] using hfirst

theorem enters_lead {lead : List Char} (hreading : scan.alternation = false)
    (hmode : scan.mode = .classStart ∨ scan.mode = .classOpened ∧ (lead ++ text).head? ≠ some '^')
    (hlead : lead = [']'] ∨ (∀ d ∈ lead, d = '-') ∧ (lead = [] → text.head? ≠ some ']')) :
    (lead.foldl step scan).Enters text ∧ (lead.foldl step scan).inside = scan.inside := by
  cases lead with
  | nil =>
    have hclose : text.head? ≠ some ']' := hlead.elim (fun h => absurd h (by decide)) fun h => h.2 rfl
    exact ⟨⟨hreading, Or.inr (hmode.imp (fun h => ⟨h, hclose⟩) fun h => ⟨h.1, hclose, h.2⟩)⟩, rfl⟩
  | cons d dashes =>
    have hd : d = ']' ∨ d = '-' := hlead.imp (fun h => (List.cons.inj h).1) fun h => h.1 d List.mem_cons_self
    have hdashes : ∀ e ∈ dashes, e = '-' := by
      rcases hlead with h | h
      · rw [(List.cons.inj h).2]
        exact fun e he => absurd he List.not_mem_nil
      · exact fun e he => h.1 e (List.mem_cons_of_mem _ he)
    have hfirst : scan.step d = scan.inside := by
      obtain ⟨mode, atoms, depth, alternation⟩ := scan
      cases hreading
      rcases hmode with rfl | ⟨rfl, -⟩ <;> rcases hd with rfl | rfl <;> rfl
    have hinside : scan.inside.InClass := ⟨hreading, rfl⟩
    have hfold : (d :: dashes).foldl step scan = scan.inside := by
      rw [List.foldl_cons, hfirst]
      exact hinside.foldl_eq (fun hmem => absurd (hdashes _ hmem) (by decide))
        fun hmem => absurd (hdashes _ hmem) (by decide)
    rw [hfold]
    exact ⟨⟨hreading, Or.inl rfl⟩, rfl⟩

/-- The front of a class: its bracket, a caret, and dashes or a closing bracket that belong to it. -/
theorem Ready.enters_class {caret lead : List Char} (h : scan.Ready)
    (hcaret : caret = ['^'] ∨ caret = [] ∧ (lead ++ text).head? ≠ some '^')
    (hlead : lead = [']'] ∨ (∀ d ∈ lead, d = '-') ∧ (lead = [] → text.head? ≠ some ']')) :
    (('[' :: (caret ++ lead)).foldl step scan).Enters text ∧
      (('[' :: (caret ++ lead)).foldl step scan).inside = (scan.push .other).inside := by
  have hopen : scan.step '[' = { scan.push .other with mode := .classOpened } :=
    h.step_eq (by decide) (by decide)
  have hreading := h.reading
  obtain ⟨mode, atoms, depth, alternation⟩ := scan
  cases hreading
  rw [List.foldl_cons, hopen, List.foldl_append]
  rcases hcaret with rfl | ⟨rfl, hcaret⟩
  · exact enters_lead rfl (Or.inl rfl) hlead
  · exact enters_lead rfl (Or.inr ⟨rfl, hcaret⟩) hlead

/-- A class adds one atom. -/
theorem InClass.adds_close (h : scan'.InClass) (hscan : scan' = (scan.push .other).inside) :
    scan.Adds [.other] (scan'.step ']') := by
  have hstep : scan'.step ']' = { scan' with mode := .plain } := by simp [step, classChar, h.reading, h.mode]
  have hreading : scan'.alternation = false := h.reading
  rw [hstep]
  subst hscan
  exact ⟨⟨hreading, Or.inl rfl⟩, rfl, rfl⟩

/-! ## Groups -/

theorem flag?_eq_some {flag : Regex.Flag} (h : flag? c = some flag) :
    (flag = .ignoreWhitespace → c = 'x') ∧ (flag = .caseInsensitive → c = 'i') := by
  unfold flag? at h
  split at h <;> cases h <;> exact ⟨fun heq => by cases heq <;> rfl, fun heq => by cases heq <;> rfl⟩

theorem not_special_of_isSwitch (h : isSwitch c = true) : c ∉ special := by
  intro hc
  simp only [special, List.mem_cons, List.not_mem_nil, or_false] at hc
  rcases hc with rfl | rfl | rfl | rfl | rfl | rfl | rfl | rfl | rfl <;> contradiction

theorem not_special_of_isNameChar {first : Bool} (h : isNameChar first c = true) (hopen : c ≠ '[') :
    c ∉ special := by
  intro hc
  simp only [special, List.mem_cons, List.not_mem_nil, or_false] at hc
  rcases hc with rfl | rfl | rfl | rfl | rfl | rfl | rfl | rfl | rfl <;>
    first | contradiction | cases first <;> contradiction

/-- Switches that are turned on are letters behind the question mark. -/
theorem mem_switchedOn_append {letters : List Char} (h : c ∈ switchedOn letters) (rest : List Char) :
    c ∈ switchedOn (letters ++ rest) := by
  induction letters with
  | nil => exact absurd h List.not_mem_nil
  | cons d letters ih =>
    rw [switchedOn, List.takeWhile_cons] at h
    split at h
    · rename_i hd
      rw [List.cons_append, switchedOn_cons hd]
      exact List.mem_cons.mpr ((List.mem_cons.mp h).imp id ih)
    · exact absurd h List.not_mem_nil

theorem agreesOnGroup_iff : scan.agreesOnGroup rest = true ↔ 'x' ∉ switchedOn (switchText rest) ∧
    (scan.depth = 0 → setsSwitches (switchText rest) = true → 'i' ∉ switchedOn (switchText rest)) ∧
    '[' ∉ nameText rest := by
  simp only [agreesOnGroup, Bool.and_eq_true, Bool.not_eq_true', List.contains_eq_mem, decide_eq_false_iff_not,
    Bool.and_eq_false_imp, beq_iff_eq, and_assoc, and_imp]

theorem switchedOn_of_header {opened : Opening} {header : List Char} (h : GroupHeader opened header)
    {flag : Regex.Flag} (hflag : (flag, true) ∈ opened.change) (rest : List Char) :
    ∃ c ∈ switchedOn (switchText (header ++ rest)), flag? c = some flag := by
  cases h with
  | plain => exact absurd hflag List.not_mem_nil
  | named hsign hangle hname => exact absurd hflag List.not_mem_nil
  | flags hletters hon | switched hletters hon =>
    obtain ⟨c, hc, hletter⟩ := hon flag hflag
    refine ⟨c, ?_, hletter⟩
    rw [List.append_assoc]
    exact mem_switchedOn_append hc _

/-- No group of a pattern that reads as it is scanned begins to ignore blanks. -/
theorem keeps_blanks {opened : Opening} {header : List Char}
    (hagrees : scan.agreesOnGroup (header ++ rest) = true) (h : GroupHeader opened header) : (.ignoreWhitespace, true) ∉ opened.change := by
  intro hflag
  obtain ⟨c, hc, hletter⟩ := switchedOn_of_header h hflag rest
  cases (flag?_eq_some hletter).1 rfl
  exact (agreesOnGroup_iff.mp hagrees).1 hc

/-- No switch outside of all groups makes what follows ignore case. -/
theorem keeps_case {change : Regex.FlagChange} {header : List Char}
    (hagrees : scan.agreesOnGroup (header ++ rest) = true) (h : GroupHeader (.flags change) header)
    (hdepth : scan.depth = 0) : (.caseInsensitive, true) ∉ change := by
  intro hflag
  obtain ⟨c, hc, hletter⟩ := switchedOn_of_header h hflag rest
  cases (flag?_eq_some hletter).2 rfl
  refine (agreesOnGroup_iff.mp hagrees).2.1 hdepth ?_ hc
  cases h with
  | @flags letters _ hletters hon =>
    have hdrop : (letters ++ ([')'] ++ rest)).dropWhile isSwitch = ')' :: rest := by
      rw [List.dropWhile_append_of_pos hletters]
      rfl
    rw [List.append_assoc, List.cons_append, switchText, setsSwitches, hdrop]
    rfl

theorem Repeats.adds_nil (h : scan.Repeats scan') (hlast : scan.atoms.head? = some .other) :
    scan.Adds [] scan' := by
  obtain ⟨atoms, hcons⟩ := List.head?_eq_some_iff.mp hlast
  exact ⟨h.ready, by rw [h.atoms, hcons]; rfl, h.depth⟩

theorem Ready.adds_question (h : scan.Ready) (hlast : scan.atoms.head? = some .other)
    (htext : ∀ c ∈ text, c ∉ special) : ∃ added, scan.Adds added (('?' :: text).foldl step scan) := by
  have hatoms : scan.atoms ≠ [] := fun hnil => by simp [hnil] at hlast
  have hfirst := (h.repeats_step hatoms (Or.inl rfl)).adds_nil hlast
  obtain ⟨added, hrest⟩ := hfirst.ready.adds_chars htext
  exact ⟨added ++ [], hfirst.trans hrest⟩

/-- The header of a group adds atoms behind the one of its parenthesis. -/
theorem Ready.adds_header {change : Regex.FlagChange} {header : List Char} (h : scan.Ready)
    (hlast : scan.atoms.head? = some .other) (hheader : GroupHeader (.group change) header)
    (hname : '[' ∉ nameText (header ++ rest)) : ∃ added, scan.Adds added (header.foldl step scan) := by
  cases hheader with
  | plain => exact ⟨[], h, rfl, rfl⟩
  | @named sign name hsign hangle hallowed =>
    have htext : '[' ∉ name := by
      have hsame : nameText (sign ++ name ++ ['>'] ++ rest) = name := by
        rw [List.append_assoc, List.append_assoc]
        rcases hsign with rfl | rfl <;> exact takeWhile_ne hangle rest
      rwa [hsame] at hname
    have hplain : ∀ c ∈ name, c ∉ special := by
      cases name with
      | nil => contradiction
      | cons first more =>
        rw [isGroupName, Bool.and_eq_true] at hallowed
        intro c hc
        have hopen : c ≠ '[' := fun heq => htext (heq ▸ hc)
        rcases List.mem_cons.mp hc with rfl | hc
        · exact not_special_of_isNameChar hallowed.1 hopen
        · exact not_special_of_isNameChar (List.all_eq_true.mp hallowed.2 c hc) hopen
    obtain ⟨front, hfront, rfl⟩ : ∃ front, (∀ c ∈ front, c ∉ special) ∧ sign = '?' :: front := by
      rcases hsign with rfl | rfl
      · exact ⟨['<'], by simp [special], rfl⟩
      · exact ⟨['P', '<'], by simp [special], rfl⟩
    have hall : ∀ c ∈ front ++ name ++ ['>'], c ∉ special := by
      intro c hc
      rcases List.mem_append.mp hc with hc | hc
      · exact (List.mem_append.mp hc).elim (hfront c) (hplain c)
      · cases List.mem_singleton.mp hc
        decide
    exact h.adds_question hlast hall
  | @switched letters _ hletters hon =>
    have hall : ∀ c ∈ letters ++ [':'], c ∉ special := by
      intro c hc
      rcases List.mem_append.mp hc with hc | hc
      · exact not_special_of_isSwitch (hletters c hc)
      · cases List.mem_singleton.mp hc
        decide
    exact h.adds_question hlast hall

/-- The scan behind an opening parenthesis. -/
def opened (scan : Scan) : Scan := { scan.push .other with depth := scan.depth + 1 }

theorem Ready.step_open (h : scan.Ready) : scan.step '(' = scan.opened := h.step_eq (by decide) (by decide)

theorem Ready.opened (h : scan.Ready) : scan.opened.Ready := ⟨h.reading, Or.inl rfl⟩

/-- A closing parenthesis: all atoms since the opening one are between two that are not literal. -/
theorem Adds.adds_group {added : List Atom} (h : scan.opened.Adds added scan') :
    scan.Adds (.other :: added ++ [.other]) (scan'.step ')') := by
  have hstep : scan'.step ')' = { scan'.push .other with depth := scan'.depth - 1 } :=
    h.ready.step_eq (by decide) (by decide)
  rw [hstep]
  refine ⟨⟨h.ready.reading, Or.inl rfl⟩, ?_, ?_⟩
  · have hatoms : scan'.atoms = added ++ .other :: scan.atoms := h.atoms
    simp [push, hatoms]
  · have hdepth : scan'.depth = scan.depth + 1 := h.depth
    have hafter : scan'.depth - 1 = scan.depth := by rw [hdepth, Nat.add_sub_cancel]
    exact hafter

/-- Switches in parentheses add atoms between two that are not literal. -/
theorem Ready.adds_switches {change : Regex.FlagChange} {header : List Char} (h : scan.Ready)
    (hheader : GroupHeader (.flags change) header) :
    ∃ added, scan.Adds (.other :: added ++ [.other]) (('(' :: header).foldl step scan) := by
  cases hheader with
  | @flags letters _ hletters hon =>
    obtain ⟨added, hadds⟩ := h.opened.adds_question rfl fun c hc => not_special_of_isSwitch (hletters c hc)
    rw [List.foldl_cons, h.step_open, List.foldl_append]
    exact ⟨added, hadds.adds_group⟩

end Scan

end EditorBridge.Delimiters
