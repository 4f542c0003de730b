import EditorBridge.Proofs.Regex.Nesting
import EditorBridge.Proofs.Tokenizer.Agreement
import EditorBridge.Proofs.Tokenizer.FullMatch
/-!
Reading and scanning side by side.  While a pattern is read part by part, the scan for delimiters takes in the
same characters; each part of a branch has its own segment of the atoms found, which is the part's one literal
character or begins and ends with an atom that is not literal (`Delimiters.traced_of_parse`).
-/

set_option autoImplicit false

namespace EditorBridge

open Regex Regex.Parser

/-- A part under which case is not ignored any more than before. -/
def Regex.Ast.KeepsCase (part : Ast) : Prop := ∀ flags flags' pattern, flags.caseInsensitive = false →
  part.resolve.run flags = some (pattern, flags') → flags'.caseInsensitive = false

namespace Delimiters

/-- The atoms of one part. -/
inductive Segment : Ast → List Atom → Prop
  | literal (c : Char) : Segment (.literal ⟨c, false⟩) [.literal c]
  | other (part : Ast) {atoms : List Atom} (hfirst : atoms.head? = some .other)
    (hlast : atoms.getLast? = some .other) : Segment part atoms

namespace Segment

variable {part : Ast} {atoms : List Atom}

theorem ne_nil (h : Segment part atoms) : atoms ≠ [] := by
  cases h with
  | literal => exact List.cons_ne_nil _ _
  | other _ hfirst => exact fun hnil => by simp [hnil] at hfirst

theorem single (part : Ast) : Segment part [.other] := .other part rfl rfl

theorem between (part : Ast) (inner : List Atom) : Segment part (.other :: inner ++ [.other]) :=
  .other part rfl List.getLast?_concat

theorem reverse (h : Segment part atoms) : Segment part atoms.reverse := by
  cases h with
  | literal c => exact .literal c
  | other _ hfirst hlast => exact .other part (by rwa [List.head?_reverse]) (by rwa [List.getLast?_reverse])

/-- A part that is repeated has no literal atom at its end. -/
theorem repeated (h : Segment part atoms) (repetition : Ast) : Segment repetition (.other :: atoms.tail) := by
  refine .other repetition rfl ?_
  cases h with
  | literal c => rfl
  | other _ hfirst hlast =>
    obtain ⟨rest, rfl⟩ := List.head?_eq_some_iff.mp hfirst
    exact hlast

end Segment

/-- The atoms of parts one after the other. -/
inductive Traced : List Ast → List Atom → Prop
  | nil : Traced [] []
  | cons {part : Ast} {segment : List Atom} {parts : List Ast} {atoms : List Atom}
    (hpart : Segment part segment) (hparts : Traced parts atoms) : Traced (part :: parts) (segment ++ atoms)

namespace Traced

variable {parts parts' : List Ast} {atoms atoms' : List Atom}

theorem append (h : Traced parts atoms) (h' : Traced parts' atoms') :
    Traced (parts ++ parts') (atoms ++ atoms') := by
  induction h with
  | nil => exact h'
  | cons hpart _ ih =>
    rw [List.append_assoc]
    exact .cons hpart ih

theorem reverse (h : Traced parts atoms) : Traced parts.reverse atoms.reverse := by
  induction h with
  | nil => exact .nil
  | @cons part segment _ _ hpart _ ih =>
    have hlast : Traced [part] segment.reverse := List.append_nil segment.reverse ▸ .cons hpart.reverse .nil
    rw [List.reverse_cons, List.reverse_append]
    exact ih.append hlast

end Traced

namespace Scan

variable {σ τ : Scanner} {scan : Scan}

/-! ## Primitives -/

theorem escapeAtom_of_isEscapable {c : Char} (h : isEscapable c = true) : escapeAtom c = .literal c := by
  rcases (Bool.or_eq_true _ _ ▸ h : isMeta c = true ∨ _) with hmeta | hascii
  · simp only [isMeta, List.contains_eq_mem, decide_eq_true_eq, List.mem_cons, List.not_mem_nil, or_false]
      at hmeta
    rcases hmeta with rfl | rfl | rfl | rfl | rfl | rfl | rfl | rfl | rfl | rfl | rfl | rfl | rfl | rfl | rfl |
      rfl | rfl | rfl <;> rfl
  · simp only [Bool.and_eq_true, decide_eq_true_eq, Bool.not_eq_true'] at hascii
    obtain ⟨⟨⟨hlow, hnot⟩, -⟩, -⟩ := hascii
    have halphanumeric : Character.isAlphanumeric c = c.isAlphanum := by
      rw [Character.isAlphanumeric, Character.isAlphabetic, Character.isNumeric, if_pos hlow, if_pos hlow]
      rfl
    have hne : ∀ d : Char, d.isAlphanum = true → c ≠ d := fun d hd heq => by
      rw [heq, hd] at hnot
      contradiction
    simp only [escapeAtom, hne 'n' rfl, hne 't' rfl, hne 'r' rfl, halphanumeric, hnot, if_false,
      Bool.false_eq_true]

theorem segment_bareEscape {c : Char} {primitive : Primitive} (h : bareEscape? c = some primitive)
    (hopen : c ≠ '<') (hclose : c ≠ '>') : Segment primitive.toAst [escapeAtom c] := by
  by_cases hbreak : c = 't' ∨ c = 'n' ∨ c = 'r'
  · -- A tab or a line break is scanned as a literal character, any other letter is not.
    rcases hbreak with rfl | rfl | rfl <;> cases h <;> exact .literal _
  rw [not_or, not_or] at hbreak
  obtain ⟨ht, hn, hr⟩ := hbreak
  unfold bareEscape? at h
  split at h
  · rename_i hescapable
    cases h
    rw [escapeAtom_of_isEscapable hescapable]
    exact .literal c
  · split at h <;> first | contradiction | exact .single _

theorem segment_bareChar (c : Char) : Segment (bareChar c).toAst [charAtom c] := by
  by_cases hatom : charAtom c = .literal c
  · rw [hatom]
    unfold bareChar
    split <;> first | contradiction | exact .literal c
  · have hsign : c = '.' ∨ c = '^' ∨ c = '$' := by
      simp only [charAtom, Bool.or_eq_true, decide_eq_true_eq, or_assoc] at hatom
      exact Decidable.not_not.mp fun hsign => hatom (if_neg hsign)
    rcases hsign with rfl | rfl | rfl <;> exact .single _

theorem resolveSet_run {set : Flags → Option CharSet} {flags flags' : Flags} {pattern : Regex.Pattern}
    (h : (Ast.resolveSet set).run flags = some (pattern, flags')) :
    flags' = flags ∧ ∃ chars, set flags = some chars ∧ pattern = .one chars := by
  cases hchars : set flags with
  | none => simp [Ast.resolveSet, hchars] at h
  | some chars =>
    simp [Ast.resolveSet, hchars] at h
    exact ⟨h.2.symm, chars, rfl, h.1.symm⟩

theorem keepsCase_primitive (primitive : Primitive) : primitive.toAst.KeepsCase := by
  intro flags flags' pattern hcase hrun
  have hsame : flags' = flags := by
    cases primitive with
    | assertion place =>
      cases hrun
      rfl
    | literal | dot | short | property =>
      simp only [Primitive.toAst, Ast.resolve] at hrun
      exact (resolveSet_run hrun).1
  rw [hsame]
  exact hcase

theorem keepsCase_bracketed (negated : Bool) (set : ClassSet) : (Ast.bracketed negated set).KeepsCase := by
  intro flags flags' pattern hcase hrun
  rw [Ast.resolve] at hrun
  exact (resolveSet_run hrun).1 ▸ hcase

theorem Ready.takes_primitive (h : scan.Ready) (hagrees : scan.agreesOn σ.rest = true)
    (hblanks : σ.ignoreBlanks = false) {c : Char} {after : List Char} (hrest : σ.rest = c :: after)
    (hc : isOperator c = false) : Takes primitive σ fun part taken => ∃ segment,
      scan.Adds segment (taken.foldl step scan) ∧ Segment part.toAst segment := by
  rw [primitive_eq]
  refine .current_bind fun d _ hd => ?_
  cases hd.symm.trans hrest
  split
  · rename_i hescape
    cases hescape
    intro part τ hrun
    obtain ⟨taken, htaken, hblanks, e, tail, rfl, htail, hbare⟩ := takes_escape hrest hblanks part τ hrun
    rw [htaken] at hagrees
    obtain ⟨atom, hadds, hatom⟩ := h.adds_escape htail hagrees
    refine ⟨_, htaken, hblanks, [atom], hadds, ?_⟩
    rcases hatom with ⟨hnil, rfl⟩ | rfl
    · obtain ⟨hopen, hclose, -⟩ := h.agrees_escape hagrees
      exact segment_bareEscape (hbare hnil) hopen hclose
    · exact .single _
  · rename_i hescape
    have hspecial : c ∉ special := by
      intro hmem
      simp only [special, List.mem_cons, List.not_mem_nil, or_false] at hmem
      rcases hmem with rfl | rfl | rfl | rfl | rfl | rfl | rfl | rfl | rfl <;> contradiction
    refine .bind_one (.advance hrest hblanks) fun τ _ hblanks => .pure hblanks ?_
    exact ⟨[charAtom c], h.adds_char hspecial, segment_bareChar c⟩

/-! ## Classes -/

theorem setOperator?_eq_some {text after : List Char} {operator : SetOperator}
    (h : setOperator? text = some (operator, after)) :
    ∃ d, text = [d, d] ++ after ∧ d ≠ '\\' ∧ d ≠ ']' := by
  unfold setOperator? at h
  split at h <;> first
    | exact absurd h (Option.some_ne_none _).symm
    | obtain ⟨-, rfl⟩ := Prod.mk.inj (Option.some.inj h); exact ⟨_, rfl, by decide, by decide⟩

/-- A part of a class leaves the scan inside of it. -/
theorem InClass.takes_classPart {inner : Parser ClassItem} {state : ClassState} (h : scan.InClass)
    (hagrees : scan.agreesOn σ.rest = true) (hblanks : σ.ignoreBlanks = false) :
    Takes (classPart inner state) σ fun part taken => part = Option.none ∧ taken = [']'] ∨
      part ≠ Option.none ∧ taken ≠ [] ∧ taken.foldl step scan = scan := by
  cases hrest : σ.rest with
  | nil =>
    refine Takes.failure.of_run_eq ?_
    rw [classPart_run, hrest]
    rfl
  | cons c after =>
    rw [hrest] at hagrees
    have hopen : c ≠ '[' := h.ne_open hagrees
    have hitem : asciiItem? σ.rest = Option.none := hrest ▸ asciiItem?_of_ne hopen after
    by_cases hclose : c = ']'
    · subst hclose
      intro part τ hrun
      rw [classPart_run_close hrest] at hrun
      obtain ⟨rfl, rfl⟩ := Prod.mk.inj (Option.some.inj hrun)
      exact ⟨[']'], hrest, hblanks, Or.inl ⟨rfl, rfl⟩⟩
    · cases hoperator : setOperator? σ.rest with
      | some found =>
        obtain ⟨operator, left⟩ := found
        obtain ⟨d, htext, hescape, hbracket⟩ := setOperator?_eq_some hoperator
        intro part τ hrun
        rw [classPart_run_operator hitem hoperator] at hrun
        obtain ⟨rfl, rfl⟩ := Prod.mk.inj (Option.some.inj hrun)
        refine ⟨[d, d], htext, hblanks, Or.inr ⟨Option.some_ne_none _, List.cons_ne_nil _ _, ?_⟩⟩
        exact h.foldl_eq (by simp [Ne.symm hescape]) (by simp [Ne.symm hbracket])
      | none =>
        refine Takes.of_run_eq ?_ (classPart_run_range hoperator hrest hopen hclose)
        intro part τ hrun
        obtain ⟨item, hrange, rfl⟩ := map_run_some.mp hrun
        obtain ⟨taken, htaken, hblanks, hmembers⟩ := takes_classRange hblanks item τ hrange
        have hhead : ∀ {first more : List Char}, taken = first ++ more → first ≠ [] →
            first.head? ≠ some ']' := by
          intro first more hsplit hne heq
          obtain ⟨d, rest, rfl⟩ := List.exists_cons_of_ne_nil hne
          rw [hrest, hsplit] at htaken
          exact hclose ((List.cons.inj htaken).1.trans (Option.some.inj heq))
        rw [← hrest, htaken] at hagrees
        refine ⟨taken, htaken, hblanks, Or.inr ⟨Option.some_ne_none _, ?_⟩⟩
        rcases hmembers with hmember | ⟨first, last, rfl, hfirst, hlast, hbracket⟩
        · have hclosed := hhead (List.append_nil taken).symm hmember.ne_nil
          exact ⟨hmember.ne_nil, h.foldl_member hmember hclosed hagrees⟩
        · rw [List.append_assoc] at hagrees
          have hone : first.foldl step scan = scan :=
            h.foldl_member hfirst (hhead rfl hfirst.ne_nil) hagrees
          have hdash : scan.step '-' = scan := h.step_eq (by decide) (by decide)
          have hafter := agreesOn_append hagrees
          rw [hone, List.cons_append] at hafter
          have htwo : last.foldl step scan = scan :=
            h.foldl_member hlast hbracket (hdash ▸ (agreesOn_cons.mp hafter).2)
          refine ⟨by simp, ?_⟩
          rw [List.foldl_append, hone, List.foldl_cons, hdash, htwo]

theorem Enters.foldl_inside {text rest : List Char} (h : scan.Enters (text ++ rest)) (hne : text ≠ []) :
    text.foldl step scan = text.foldl step scan.inside := by
  obtain ⟨c, text, rfl⟩ := List.exists_cons_of_ne_nil hne
  rw [List.foldl_cons, List.foldl_cons, Enters.step_inside h]

theorem InClass.enters (h : scan.InClass) (text : List Char) : scan.Enters text :=
  ⟨h.reading, Or.inl h.mode⟩

theorem InClass.inside_eq (h : scan.InClass) : scan.inside = scan := by
  obtain ⟨mode, atoms, depth, alternation⟩ := scan
  obtain ⟨-, rfl⟩ := h
  rfl

/-- The content of a class leaves the scan inside of it up to the closing bracket. -/
theorem Enters.takes_classContent {inner : Parser ClassItem} (steps : Nat) (state : ClassState)
    (h : scan.Enters σ.rest) (hagrees : scan.agreesOn σ.rest = true) (hblanks : σ.ignoreBlanks = false) :
    Takes (classContent inner steps state) σ fun _ taken => taken.foldl step scan = scan.inside.step ']' := by
  induction steps generalizing σ scan state with
  | zero => exact .failure
  | succ steps ih =>
    have hinside : scan.inside.InClass := ⟨h.reading, rfl⟩
    rw [classContent_succ]
    refine .skipBlanks_bind hblanks ?_
    refine (hinside.takes_classPart (h.agreesOn_inside hagrees) hblanks).bind ?_
    intro part taken τ hrest hblanks hpart
    have hfold : taken ≠ [] → taken.foldl step scan = taken.foldl step scan.inside := by
      intro hne
      rw [hrest] at h
      exact h.foldl_inside hne
    rcases hpart with ⟨rfl, rfl⟩ | ⟨hpart, hne, hstays⟩
    · exact .pure hblanks (hfold (List.cons_ne_nil _ _))
    · obtain ⟨state, rfl⟩ := Option.ne_none_iff_exists'.mp hpart
      have hafter : taken.foldl step scan = scan.inside := (hfold hne).trans hstays
      rw [hrest] at hagrees
      have hagrees := agreesOn_append hagrees
      rw [hafter] at hagrees
      refine (ih state (hinside.enters _) hagrees hblanks).mono fun _ more hmore => ?_
      rw [List.foldl_append, hafter, hmore, hinside.inside_eq]

/-- A class in brackets adds one atom. -/
theorem Ready.takes_bracketed (h : scan.Ready) (nesting : Nat) (hagrees : scan.agreesOn σ.rest = true)
    (hblanks : σ.ignoreBlanks = false) {after : List Char} (hrest : σ.rest = '[' :: after) :
    Takes (bracketed nesting) σ fun _ taken => scan.Adds [.other] (taken.foldl step scan) := by
  cases nesting with
  | zero => exact .failure
  | succ nesting =>
    rw [bracketed]
    refine (takes_openClass hrest hblanks).bind ?_
    rintro ⟨negated, items⟩ _ τ htaken hblanks ⟨caret, lead, rfl, hcaret, hlead⟩
    have hafter : after = caret ++ (lead ++ τ.rest) := by
      rw [hrest, List.cons_append, List.append_assoc] at htaken
      exact (List.cons.inj htaken).2
    have hcaret : caret = ['^'] ∨ caret = [] ∧ (lead ++ τ.rest).head? ≠ some '^' := by
      refine hcaret.imp id fun hnone => ⟨hnone.1, ?_⟩
      have hsame : after = lead ++ τ.rest := by rw [hafter, hnone.1, List.nil_append]
      exact hsame ▸ hnone.2
    have hlead : lead = [']'] ∨ (∀ d ∈ lead, d = '-') ∧ (lead = [] → τ.rest.head? ≠ some ']') := by
      refine hlead.imp id fun hdashes => ⟨hdashes.1, fun hnil => hdashes.2 hnil τ.rest ?_⟩
      rw [hafter, hnil, List.nil_append]
    obtain ⟨henters, hinside⟩ := h.enters_class hcaret hlead
    rw [htaken] at hagrees
    have hagrees := agreesOn_append hagrees
    refine .steps_bind fun steps => ?_
    refine (henters.takes_classContent steps _ hagrees hblanks).bind fun set text υ _ hblanks hcontent => ?_
    refine .pure hblanks ?_
    have hclass : (scan.push .other).inside.InClass := ⟨h.reading, rfl⟩
    rw [List.append_nil, List.foldl_append, hcontent, hinside]
    exact hclass.adds_close rfl

/-! ## Groups -/

theorem applyBlanks_run {change : FlagChange} (hchange : (.ignoreWhitespace, true) ∉ change)
    (hblanks : σ.ignoreBlanks = false) (hrun : (applyBlanks change).run σ = some ((), τ)) :
    τ.rest = σ.rest ∧ τ.ignoreBlanks = false := by
  unfold applyBlanks at hrun
  split at hrun
  · rename_i flag on hfind
    have hmem := List.mem_of_find?_eq_some hfind
    have hflag : flag = .ignoreWhitespace := by simpa using List.find?_some hfind
    obtain ⟨-, rfl⟩ := Prod.mk.inj (Option.some.inj hrun)
    cases on with
    | false => exact ⟨rfl, rfl⟩
    | true => exact absurd (hflag ▸ hmem) hchange
  · obtain ⟨-, rfl⟩ := pure_run_some.mp hrun
    exact ⟨rfl, hblanks⟩

/-- A reader of what is inside a group leaves the scan between atoms, and behind the atom of the parenthesis. -/
def ReadsBody (inner : Parser Ast) : Prop := ∀ (σ : Scanner) (scan : Scan), scan.Ready → scan.depth ≠ 0 →
  scan.agreesOn σ.rest = true → σ.ignoreBlanks = false →
    Takes inner σ fun _ taken => ∃ added, scan.Adds added (taken.foldl step scan)

theorem keepsCase_flags {change : FlagChange} (hchange : (.caseInsensitive, true) ∉ change) :
    (Ast.flags change).KeepsCase := by
  have hset : ∀ (flags : Flags) (entry : Flag × Bool), entry ≠ (.caseInsensitive, true) →
      flags.caseInsensitive = false → (flags.set entry).caseInsensitive = false := by
    rintro flags ⟨flag, on⟩ hne hflags
    cases flag with
    | caseInsensitive =>
      cases on with
      | false => rfl
      | true => exact absurd rfl hne
    | _ => exact hflags
  have hfold : ∀ flags : Flags, flags.caseInsensitive = false →
      (flags.change change).caseInsensitive = false := by
    induction change with
    | nil => exact fun _ hflags => hflags
    | cons entry change ih =>
      rw [List.mem_cons, not_or] at hchange
      exact fun flags hflags => ih hchange.2 _ (hset flags entry (Ne.symm hchange.1) hflags)
  intro flags flags' pattern hflags hrun
  obtain ⟨-, rfl⟩ := Prod.mk.inj (Option.some.inj hrun)
  exact hfold flags hflags

theorem keepsCase_group (change : FlagChange) (body : Ast) : (Ast.group change body).KeepsCase := by
  intro flags flags' pattern hflags hrun
  rw [Ast.resolve] at hrun
  cases hbody : body.resolve.run (flags.change change) with
  | none => simp [hbody] at hrun
  | some found =>
    simp [hbody] at hrun
    exact hrun.2 ▸ hflags

theorem keepsCase_repetition {ast : Ast} (h : ast.KeepsCase) (least : Nat) (most : Option Nat) (greedy : Bool) :
    (Ast.repetition least most greedy ast).KeepsCase := by
  intro flags flags' pattern hflags hrun
  rw [Ast.resolve] at hrun
  cases hbody : ast.resolve.run flags with
  | none => simp [hbody] at hrun
  | some found =>
    obtain ⟨body, inside⟩ := found
    simp [hbody] at hrun
    exact hrun.2 ▸ h flags inside body hflags hbody

/-- A group, or switches in parentheses, add one segment. -/
theorem Ready.takes_group {inner : Parser Ast} (h : scan.Ready) (hinner : ReadsBody inner)
    (hagrees : scan.agreesOn σ.rest = true) (hblanks : σ.ignoreBlanks = false) {after : List Char}
    (hrest : σ.rest = '(' :: after) : Takes (group inner) σ fun part taken =>
      (scan.depth = 0 → part.KeepsCase) ∧ ∃ segment, Segment part segment ∧
        scan.Adds segment (taken.foldl step scan) := by
  have hgroup : scan.agreesOnGroup after = true := by
    rw [hrest] at hagrees
    have hfirst := (agreesOn_cons.mp hagrees).1
    obtain ⟨hreading, hmode | ⟨hmode, -⟩⟩ := h <;> simpa [agrees, hreading, hmode] using hfirst
  intro part τ hrun
  rcases group_run_some.mp hrun with ⟨change, υ, hopening, happly, rfl⟩ |
    ⟨change, υ, υ', body, υ'', after', hopening, happly, hbody, hclose, rfl, rfl⟩
  · obtain ⟨_, htaken, hblanks, header, rfl, hheader⟩ := takes_opening hrest hblanks _ υ hopening
    have hafter : after = header ++ υ.rest := (List.cons.inj (hrest.symm.trans htaken)).2
    rw [hafter] at hgroup
    obtain ⟨hsame, hblanks⟩ := applyBlanks_run (keeps_blanks hgroup hheader) hblanks happly
    obtain ⟨added, hadds⟩ := h.adds_switches hheader
    refine ⟨'(' :: header, hsame ▸ htaken, hblanks, fun hdepth => ?_, _, .between _ added, hadds⟩
    exact keepsCase_flags (keeps_case hgroup hheader hdepth)
  · obtain ⟨_, htaken, hblanks', header, rfl, hheader⟩ := takes_opening hrest hblanks _ υ hopening
    have hafter : after = header ++ υ.rest := (List.cons.inj (hrest.symm.trans htaken)).2
    rw [hafter] at hgroup
    obtain ⟨hsame, hblanks'⟩ := applyBlanks_run (keeps_blanks hgroup hheader) hblanks' happly
    obtain ⟨first, hfirst⟩ := h.opened.adds_header rfl hheader (agreesOnGroup_iff.mp hgroup).2.2
    have hopen : ('(' :: header).foldl step scan = header.foldl step scan.opened := by
      rw [List.foldl_cons, h.step_open]
    rw [htaken] at hagrees
    have hagrees := agreesOn_append hagrees
    rw [hopen, ← hsame] at hagrees
    have hdepth : (header.foldl step scan.opened).depth ≠ 0 := by
      rw [hfirst.depth]
      exact Nat.succ_ne_zero _
    obtain ⟨inside, hinside, hblanks'', second, hsecond⟩ :=
      hinner υ' _ hfirst.ready hdepth hagrees hblanks' body υ'' hbody
    refine ⟨'(' :: header ++ inside ++ [')'], ?_, hblanks, fun _ => keepsCase_group _ _, _,
      .between _ (second ++ first), ?_⟩
    · rw [htaken, ← hsame, hinside, hclose]
      simp
    · rw [List.foldl_append, List.foldl_append, hopen]
      exact (hfirst.trans hsecond).adds_group

end Scan

/-! ## Parts of a branch -/

/-- What has been read of a branch and what has been scanned of it, behind what was scanned before. -/
structure Tracks (base : List Atom) (state : BranchState) (scan : Scan) : Prop where
  ready : scan.Ready
  traced : ∃ atoms, Traced state.parts atoms ∧ scan.atoms = atoms ++ base
  keepsCase : scan.depth = 0 → ∀ part ∈ state.parts, part.KeepsCase

namespace Tracks

variable {base : List Atom} {state state' : BranchState} {scan scan' : Scan} {σ τ : Scanner}

theorem add {part : Ast} {segment : List Atom} (h : Tracks base state scan) (hsegment : Segment part segment)
    (hadds : scan.Adds segment scan') (hkeeps : scan.depth = 0 → part.KeepsCase) :
    Tracks base (state.add part) scan' := by
  obtain ⟨atoms, htraced, hatoms⟩ := h.traced
  refine ⟨hadds.ready, ⟨segment ++ atoms, .cons hsegment htraced, ?_⟩, fun hdepth other hother => ?_⟩
  · rw [hadds.atoms, hatoms, List.append_assoc]
  · rw [hadds.depth] at hdepth
    rcases List.mem_cons.mp hother with rfl | hother
    · exact hkeeps hdepth
    · exact h.keepsCase hdepth other hother

theorem atoms_ne_nil (h : Tracks base state scan) {ast : Ast} {before : List Ast}
    (hparts : state.parts = ast :: before) : scan.atoms ≠ [] := by
  obtain ⟨atoms, htraced, hatoms⟩ := h.traced
  rw [hparts] at htraced
  cases htraced with
  | cons hpart _ =>
    rw [hatoms]
    simp [hpart.ne_nil]

theorem repeats (h : Tracks base state scan) (hrepeats : scan.Repeats scan') {ast : Ast} {before : List Ast}
    (hparts : state.parts = ast :: before) (least : Nat) (most : Option Nat) (greedy : Bool) :
    Tracks base { state with parts := .repetition least most greedy ast :: before } scan' := by
  obtain ⟨atoms, htraced, hatoms⟩ := h.traced
  have hkeeps := h.keepsCase
  rw [hparts] at htraced hkeeps
  cases htraced with
  | @cons _ segment _ rest hpart hrest =>
    refine ⟨hrepeats.ready, ⟨_, .cons (hpart.repeated _) hrest, ?_⟩, fun hdepth other hother => ?_⟩
    · obtain ⟨atom, segment, rfl⟩ := List.exists_cons_of_ne_nil hpart.ne_nil
      rw [hrepeats.atoms, hatoms]
      simp
    · rw [hrepeats.depth] at hdepth
      rcases List.mem_cons.mp hother with rfl | hother
      · exact Scan.keepsCase_repetition (hkeeps hdepth ast List.mem_cons_self) least most greedy
      · exact hkeeps hdepth other (List.mem_cons_of_mem _ hother)

/-- More has been read and scanned, at the same depth.  Outside of all groups it belongs to the same branch. -/
structure Continues (base : List Atom) (before : List Ast) (level : Nat) (state : BranchState) (scan : Scan) :
    Prop where
  depth : scan.depth = level
  tracks : ∃ more, Tracks (more ++ base) state scan ∧ (level = 0 → more = [] ∧ state.before = before)

theorem continues (h : Tracks base state scan) : Continues base state.before scan.depth state scan :=
  ⟨rfl, [], h, fun _ => ⟨rfl, rfl⟩⟩

/-- A part that is read is scanned, unless it is the bar of an alternation outside of all groups: that ends
the scan. -/
theorem step {inner : Parser Ast} (h : Tracks base state scan) (hinner : Scan.ReadsBody inner)
    (hread : PartRead inner state σ state' τ) (hagrees : scan.agreesOn σ.rest = true)
    (hblanks : σ.ignoreBlanks = false) : ∃ taken, σ.rest = taken ++ τ.rest ∧ τ.ignoreBlanks = false ∧
      (scan.depth = 0 ∧ (taken.foldl Scan.step scan).alternation = true ∨
        Continues base state.before scan.depth state' (taken.foldl Scan.step scan)) := by
  have hready := h.ready
  cases hread with
  | @next after hrest =>
    refine ⟨['|'], hrest, hblanks, ?_⟩
    have hstep : scan.step '|' = scan.start '|' := hready.step_eq (by decide) (by decide)
    by_cases hdepth : scan.depth = 0
    · refine Or.inl ⟨hdepth, ?_⟩
      rw [List.foldl_cons, hstep]
      simp [Scan.start, hdepth]
    · have hpush : scan.step '|' = scan.push .other := by
        rw [hstep]
        simp [Scan.start, hdepth]
      obtain ⟨atoms, -, hatoms⟩ := h.traced
      have hadds := hready.adds_push .other
      refine Or.inr ⟨?_, .other :: atoms, ⟨?_, ⟨[], .nil, ?_⟩, ?_⟩, fun hzero => absurd hzero hdepth⟩
      · rw [List.foldl_cons, hpush]
        rfl
      · rw [List.foldl_cons, hpush]
        exact hadds.ready
      · rw [List.foldl_cons, hpush]
        exact congrArg _ hatoms
      · exact fun _ part hpart => absurd hpart List.not_mem_nil
  | @group after part τ hrest hrun =>
    obtain ⟨taken, htaken, hblanks, hkeeps, segment, hsegment, hadds⟩ :=
      hready.takes_group hinner hagrees hblanks hrest part τ hrun
    refine ⟨taken, htaken, hblanks, Or.inr ?_⟩
    exact hadds.depth ▸ (h.add hsegment hadds hkeeps).continues
  | @bracketed after negated set τ hrest hrun =>
    obtain ⟨taken, htaken, hblanks, hadds⟩ := hready.takes_bracketed _ hagrees hblanks hrest _ τ hrun
    refine ⟨taken, htaken, hblanks, Or.inr ?_⟩
    exact hadds.depth ▸ (h.add (.single _) hadds fun _ => Scan.keepsCase_bracketed negated set).continues
  | @simple c after least most parts τ hrest hbounds hrun =>
    obtain ⟨greedy, ast, before, hparts, rfl⟩ := simpleRepetition_run hrun
    obtain ⟨taken, htaken, hblanks, htext⟩ := takes_simpleRepetition least most _ hrest hblanks _ τ hrun
    have hc : c = '?' ∨ c = '*' ∨ c = '+' := by
      unfold repetitionBounds? at hbounds
      split at hbounds
      · exact Or.inl rfl
      · exact Or.inr (Or.inl rfl)
      · exact Or.inr (Or.inr rfl)
      · contradiction
    have hfirst := hready.repeats_step (h.atoms_ne_nil hparts) hc
    have hrepeats : scan.Repeats (taken.foldl Scan.step scan) := by
      rcases htext with rfl | rfl
      · exact hfirst
      · exact hfirst.lazy
    refine ⟨taken, htaken, hblanks, Or.inr ?_⟩
    exact hrepeats.depth ▸ (h.repeats hrepeats hparts least most greedy).continues
  | @counted after parts τ hrest hrun =>
    obtain ⟨least, most, greedy, ast, before, hparts, rfl⟩ := countedRepetition_run hrun
    obtain ⟨taken, htaken, hblanks, bounds, hbrace, htext⟩ := takes_countedRepetition _ hrest hblanks _ τ hrun
    have hfirst := hready.repeats_braces (h.atoms_ne_nil hparts) hbrace
    have hrepeats : scan.Repeats (taken.foldl Scan.step scan) := by
      rcases htext with rfl | rfl
      · exact hfirst
      · have hsplit : '{' :: bounds ++ ['}', '?'] = ('{' :: bounds ++ ['}']) ++ ['?'] := by simp
        rw [hsplit, List.foldl_append]
        exact hfirst.lazy
    refine ⟨taken, htaken, hblanks, Or.inr ?_⟩
    exact hrepeats.depth ▸ (h.repeats hrepeats hparts least most greedy).continues
  | @primitive c after part τ hrest hc hrun =>
    obtain ⟨taken, htaken, hblanks, segment, hadds, hsegment⟩ :=
      hready.takes_primitive hagrees hblanks hrest hc part τ hrun
    refine ⟨taken, htaken, hblanks, Or.inr ?_⟩
    exact hadds.depth ▸ (h.add hsegment hadds fun _ => Scan.keepsCase_primitive part).continues

/-- What is read is scanned up to its end, or up to an alternation outside of all groups. -/
theorem run {inner : Parser Ast} {steps : Nat} {ast : Ast} (h : Tracks base state scan)
    (hinner : Scan.ReadsBody inner)
    (hrun : (branchesRest inner steps state.before state.parts).run σ = some (ast, τ))
    (hagrees : scan.agreesOn σ.rest = true) (hblanks : σ.ignoreBlanks = false) :
    (scan.depth = 0 ∧ ∃ taken left, σ.rest = taken ++ left ∧ (taken.foldl Scan.step scan).alternation = true) ∨
      ∃ taken state', σ.rest = taken ++ τ.rest ∧ τ.ignoreBlanks = false ∧ ast = state'.close ∧
        Continues base state.before scan.depth state' (taken.foldl Scan.step scan) := by
  induction steps generalizing base state scan σ with
  | zero => exact absurd hrun (Option.some_ne_none _).symm
  | succ steps ih =>
    obtain ⟨υ, hskip, hround⟩ := branchesRest_run_some.mp hrun
    obtain ⟨-, rfl⟩ := Prod.mk.inj (Option.some.inj ((skipBlanks_run_of_not hblanks).symm.trans hskip))
    rcases hround with ⟨-, hast, rfl⟩ | ⟨state', υ', hread, hnext⟩
    · exact Or.inr ⟨[], state, rfl, hblanks, hast, h.continues⟩
    · obtain ⟨taken, htaken, hblanks, ⟨hdepth, hended⟩ | ⟨hdepth, more, htracks, hsame⟩⟩ :=
        h.step hinner hread hagrees hblanks
      · exact Or.inl ⟨hdepth, taken, υ'.rest, htaken, hended⟩
      · rw [htaken] at hagrees
        rcases ih htracks hnext (Scan.agreesOn_append hagrees) hblanks with
          ⟨hzero, front, left, hfront, hended⟩ |
          ⟨front, state'', hfront, hblanks, hast, hlast, most, htracks, hbase⟩
        · refine Or.inl ⟨hdepth ▸ hzero, taken ++ front, left, ?_, ?_⟩
          · rw [htaken, hfront, List.append_assoc]
          · rwa [List.foldl_append]
        · refine Or.inr ⟨taken ++ front, state'', ?_, hblanks, hast, ?_⟩
          · rw [htaken, hfront, List.append_assoc]
          · rw [List.foldl_append]
            refine ⟨hlast.trans hdepth, most ++ more, by rwa [List.append_assoc], fun hzero => ?_⟩
            obtain ⟨rfl, hstart⟩ := hbase (hdepth.trans hzero)
            exact (hsame hzero).imp (fun hnil => by rw [hnil, List.append_nil]) fun heq => hstart.trans heq

end Tracks

/-! ## Patterns -/

theorem readsBody_branches (nesting : Nat) : Scan.ReadsBody (branches nesting) := by
  induction nesting with
  | zero => exact fun _ _ _ _ _ _ => .failure
  | succ nesting ih =>
    intro σ scan hready hdepth hagrees hblanks ast τ hrun
    have htracks : Tracks scan.atoms ⟨[], []⟩ scan :=
      ⟨hready, ⟨[], .nil, rfl⟩, fun _ part hpart => absurd hpart List.not_mem_nil⟩
    rcases htracks.run ih hrun hagrees hblanks with ⟨hzero, -⟩ |
      ⟨taken, state, htaken, hblanks, -, hlast, more, ⟨hready, ⟨atoms, -, hatoms⟩, -⟩, -⟩
    · exact absurd hzero hdepth
    · exact ⟨taken, htaken, hblanks, atoms ++ more, hready, by rw [hatoms, List.append_assoc], hlast⟩

theorem Scan.foldl_of_alternation {scan : Scan} (h : scan.alternation = true) (text : List Char) :
    text.foldl Scan.step scan = scan := by
  induction text with
  | nil => rfl
  | cons c text ih =>
    have hstep : scan.step c = scan := by simp [Scan.step, h]
    rw [List.foldl_cons, hstep, ih]

/-- A pattern that reads as it is scanned has an alternation outside of all groups, or its parts one after the
other have the atoms that are found. -/
theorem traced_of_parse {pattern : String} {ast : Ast} (hparse : parse pattern = some ast)
    (hagrees : readsAlike pattern = true) : (pattern.toList.foldl Scan.step {}).alternation = true ∨
      (pattern.toList.foldl Scan.step {}).Ready ∧ ∃ parts, ast = Ast.ofParts parts ∧
        Traced parts (pattern.toList.foldl Scan.step {}).atoms.reverse ∧ ∀ part ∈ parts, part.KeepsCase := by
  obtain ⟨τ, hrun, hend, -⟩ := parse_eq_some_iff.mp hparse
  have hready : Scan.Ready {} := ⟨rfl, Or.inl rfl⟩
  have htracks : Tracks [] ⟨[], []⟩ {} :=
    ⟨hready, ⟨[], .nil, rfl⟩, fun _ part hpart => absurd hpart List.not_mem_nil⟩
  rcases htracks.run (readsBody_branches Parser.maxNesting) hrun hagrees rfl with
    ⟨-, taken, left, htaken, hended⟩ | ⟨taken, state, htaken, -, hast, hdepth, more, htracks, hbase⟩
  · have hsplit : pattern.toList = taken ++ left := htaken
    rw [hsplit, List.foldl_append, Scan.foldl_of_alternation hended]
    exact Or.inl hended
  · have hall : pattern.toList = taken := by
      have hsplit : pattern.toList = taken ++ τ.rest := htaken
      rw [hsplit, hend, List.append_nil]
    obtain ⟨rfl, hbefore⟩ := hbase rfl
    obtain ⟨atoms, htraced, hatoms⟩ := htracks.traced
    rw [hall]
    refine Or.inr ⟨htracks.ready, state.parts.reverse, ?_, ?_, fun part hpart => ?_⟩
    · rw [hast, BranchState.close, BranchState.next, hbefore]
      rfl
    · rw [hatoms, List.append_nil, List.append_nil]
      exact htraced.reverse
    · exact htracks.keepsCase hdepth part (List.mem_reverse.mp hpart)

end Delimiters

end EditorBridge
