import EditorBridge.Proofs.Regex.Parts
/-!
Reading a pattern that goes on.  Behind a pattern that is read to its end a closing parenthesis is left for
whoever opened it, unless the pattern ends in a comment: then it is a part of the comment, with all that
follows on its line.  Readers that do one or the other are closed under sequence (`Parser.Carries.bind`).
-/

set_option autoImplicit false

namespace EditorBridge.Regex

/-! ## Tails -/

/-- What can follow a pattern on its last line, from the parenthesis on that closes a group around it. -/
structure Closing (tail : List Char) : Prop where
  head : ∃ after, tail = ')' :: after
  line : '\n' ∉ tail

/-- A text whose last line has a number sign: what follows may be a comment. -/
def HoldsComment (text : List Char) : Prop := ∃ comment, '#' :: comment <:+ text ∧ '\n' ∉ comment

theorem HoldsComment.of_suffix {part text : List Char} (h : HoldsComment part) (hsuffix : part <:+ text) :
    HoldsComment text := by
  obtain ⟨comment, hcomment, hline⟩ := h
  exact ⟨comment, hcomment.trans hsuffix, hline⟩

theorem HoldsComment.cons {text : List Char} (h : HoldsComment text) (c : Char) :
    HoldsComment (c :: text) :=
  h.of_suffix (List.suffix_cons c text)

/-- A pattern with a tail behind it. -/
def Scanner.followed (scanner : Scanner) (tail : List Char) : Scanner :=
  { scanner with rest := scanner.rest ++ tail }

namespace Parser

variable {α β : Type} {σ τ : Scanner}

/-! ## Readers that carry on -/

/-- A result of a reader is a result of another one too, and what the other one makes of a tail: it is left,
or it is taken as part of a comment.  The other one may take more steps, if there is more to read. -/
structure Carried (long : Nat → Parser α) (σ : Scanner) (a : α) (τ : Scanner) : Prop where
  suffix : τ.rest <:+ σ.rest
  again : ∀ room, (long room).run σ = some (a, τ)
  tails : (∀ tail, Closing tail → ∀ room, tail.length ≤ room →
      (long room).run (σ.followed tail) = some (a, τ.followed tail)) ∨
    HoldsComment σ.rest ∧ ∀ tail, Closing tail → ∀ room, tail.length ≤ room →
      (long room).run (σ.followed tail) = some (a, τ)

/-- Every result of a reader is carried over to another one. -/
def Carries (short : Parser α) (long : Nat → Parser α) (σ : Scanner) : Prop :=
  ∀ a τ, short.run σ = some (a, τ) → Carried long σ a τ

theorem Carried.mono {long long' : Nat → Parser α} {a : α} (h : Carried long σ a τ)
    (hle : ∀ room σ b υ, (long room).run σ = some (b, υ) → (long' room).run σ = some (b, υ)) :
    Carried long' σ a τ where
  suffix := h.suffix
  again room := hle room _ _ _ (h.again room)
  tails := h.tails.imp (fun hleft tail htail room hroom => hle room _ _ _ (hleft tail htail room hroom))
    fun ⟨hcomment, htaken⟩ =>
      ⟨hcomment, fun tail htail room hroom => hle room _ _ _ (htaken tail htail room hroom)⟩

/-- A reader carries its own results over to longer texts. -/
def Steady (parser : Parser α) (σ : Scanner) : Prop := Carries parser (fun _ => parser) σ

theorem Carries.bind {first : Parser α} {first' : Nat → Parser α} {next : α → Parser β}
    {next' : Nat → α → Parser β} (hfirst : Carries first first' σ)
    (hnext : ∀ a τ, first.run σ = some (a, τ) → Carries (next a) (fun room => next' room a) τ) :
    Carries (first >>= next) (fun room => first' room >>= next' room) σ := by
  intro b υ hrun
  obtain ⟨a, τ, hone, htwo⟩ := bind_run_some.mp hrun
  have hfirst := hfirst a τ hone
  have hnext := hnext a τ hone b υ htwo
  have hcompose : ∀ room σ', (first' room).run σ' = some (a, τ) →
      (first' room >>= next' room).run σ' = some (b, υ) := by
    intro room σ' hrun
    rw [StateT.run_bind, hrun]
    exact hnext.again room
  refine ⟨hnext.suffix.trans hfirst.suffix, fun room => hcompose room σ (hfirst.again room), ?_⟩
  rcases hfirst.tails with hleft | ⟨hcomment, htaken⟩
  · rcases hnext.tails with hleft' | ⟨hcomment, htaken⟩
    · refine Or.inl fun tail htail room hroom => ?_
      rw [StateT.run_bind, hleft tail htail room hroom]
      exact hleft' tail htail room hroom
    · refine Or.inr ⟨hcomment.of_suffix hfirst.suffix, fun tail htail room hroom => ?_⟩
      rw [StateT.run_bind, hleft tail htail room hroom]
      exact htaken tail htail room hroom
  · exact Or.inr ⟨hcomment, fun tail htail room hroom => hcompose room _ (htaken tail htail room hroom)⟩

theorem Steady.bind {first : Parser α} {next : α → Parser β} (hfirst : Steady first σ)
    (hnext : ∀ a τ, first.run σ = some (a, τ) → Steady (next a) τ) : Steady (first >>= next) σ :=
  Carries.bind hfirst hnext

theorem Carries.failure (long : Nat → Parser α) : Carries failure long σ := by
  intro a τ hrun
  exact absurd hrun (Option.some_ne_none _).symm

/-- A reader that goes wrong has nothing to carry over. -/
theorem Carries.of_none {short : Parser α} {long : Nat → Parser α} (h : short.run σ = none) :
    Carries short long σ := by
  intro a τ hrun
  rw [h] at hrun
  exact absurd hrun (Option.some_ne_none _).symm

/-- A reader whose result is known, and known to leave a tail. -/
theorem Steady.of_run {parser : Parser α} {a : α} (hrun : parser.run σ = some (a, τ))
    (hsuffix : τ.rest <:+ σ.rest)
    (htail : ∀ tail, Closing tail → parser.run (σ.followed tail) = some (a, τ.followed tail)) :
    Steady parser σ := by
  intro b υ hresult
  obtain ⟨rfl, rfl⟩ := Prod.mk.inj (Option.some.inj (hrun.symm.trans hresult))
  exact ⟨hsuffix, fun _ => hrun, Or.inl fun tail htail' _ _ => htail tail htail'⟩

/-- A reader that goes on at a later place, whatever is behind the pattern. -/
theorem Carries.of_jump {short next : Parser β} {long next' : Nat → Parser β} {after : List Char}
    (hsuffix : after <:+ σ.rest) (hshort : short.run σ = next.run { σ with rest := after })
    (hagain : ∀ room, (long room).run σ = (next' room).run { σ with rest := after })
    (htail : ∀ tail, Closing tail → ∀ room, (long room).run (σ.followed tail) =
      (next' room).run { σ with rest := after ++ tail })
    (hnext : Carries next next' { σ with rest := after }) : Carries short long σ := by
  intro b υ hrun
  have hcarried := hnext b υ (hshort.symm.trans hrun)
  refine ⟨hcarried.suffix.trans hsuffix, fun room => (hagain room).trans (hcarried.again room), ?_⟩
  refine hcarried.tails.imp (fun hleft tail htail' room hroom => ?_)
    fun ⟨hcomment, htaken⟩ => ⟨hcomment.of_suffix hsuffix, fun tail htail' room hroom => ?_⟩
  · exact (htail tail htail' room).trans (hleft tail htail' room hroom)
  · exact (htail tail htail' room).trans (htaken tail htail' room hroom)

/-- A reader that acts like one whose results carry over. -/
theorem Steady.of_run_eq {parser other : Parser α} (h : Steady other σ)
    (hrun : parser.run σ = other.run σ)
    (htail : ∀ tail, Closing tail → parser.run (σ.followed tail) = other.run (σ.followed tail)) :
    Steady parser σ :=
  have hother : Carries _ _ { σ with rest := σ.rest } := h
  .of_jump (List.suffix_refl _) hrun (fun _ => hrun) (fun tail htail' _ => htail tail htail') hother

theorem Steady.pure (a : α) : Steady (pure a : Parser α) σ :=
  .of_run rfl (List.suffix_refl _) fun _ _ => rfl

theorem Steady.failure : Steady (failure : Parser α) σ := Carries.failure _

theorem Steady.failure_bind {next : α → Parser β} : Steady (Alternative.failure >>= next) σ :=
  Carries.of_none rfl

theorem Steady.map {parser : Parser α} (f : α → β) (h : Steady parser σ) : Steady (f <$> parser) σ := by
  rw [map_eq_pure_bind]
  exact h.bind fun _ _ _ => .pure _

/-! ## Characters -/

theorem steady_advance {c : Char} {after : List Char} (hrest : σ.rest = c :: after) :
    Steady advance σ := by
  have hrun : advance.run σ = some ((), { σ with rest := σ.rest.tail }) := rfl
  refine .of_run hrun (List.tail_suffix _) fun tail _ => ?_
  have hlong : advance.run (σ.followed tail) =
      some ((), { σ with rest := (σ.rest ++ tail).tail }) := rfl
  rw [hlong, hrest]
  rfl

theorem dropBlanks_suffix (inComment : Bool) (text : List Char) : dropBlanks inComment text <:+ text := by
  fun_induction dropBlanks inComment text with
  | case1 => exact List.suffix_refl _
  | case2 c rest ih => exact ih.trans (List.suffix_cons c rest)
  | case3 c rest hblank ih => exact ih.trans (List.suffix_cons c rest)
  | case4 rest hblank ih => exact ih.trans (List.suffix_cons _ rest)
  | case5 c rest hblank hsign => exact List.suffix_refl _

/-- A tail is left by the passing over of blanks, or it is a part of the last comment. -/
theorem dropBlanks_append (inComment : Bool) (text : List Char) :
    (∀ tail, Closing tail → dropBlanks inComment (text ++ tail) = dropBlanks inComment text ++ tail) ∨
      (inComment = true ∧ '\n' ∉ text ∨ HoldsComment text) ∧ dropBlanks inComment text = [] ∧
        ∀ tail, Closing tail → dropBlanks inComment (text ++ tail) = [] := by
  have hline : ∀ tail : List Char, '\n' ∉ tail → dropBlanks true tail = [] := by
    intro tail hline
    induction tail with
    | nil => rfl
    | cons c rest ih =>
      obtain ⟨hc, hrest⟩ := not_or.mp (mt List.mem_cons.mpr hline)
      have hne : (c != '\n') = true := bne_iff_ne.mpr (Ne.symm hc)
      rw [dropBlanks, hne, ih hrest]
  fun_induction dropBlanks inComment text with
  | case1 inComment =>
    cases inComment with
    | false =>
      refine Or.inl fun tail htail => ?_
      obtain ⟨after, rfl⟩ := htail.head
      rfl
    | true => exact Or.inr ⟨Or.inl ⟨rfl, List.not_mem_nil⟩, rfl, fun tail htail => hline tail htail.line⟩
  | case2 c rest ih =>
    refine ih.imp id fun ⟨hcomment, hnil, htaken⟩ => ⟨?_, hnil, htaken⟩
    rcases hcomment with ⟨hc, hrest⟩ | hcomment
    · exact Or.inl ⟨rfl, List.not_mem_cons_of_ne_of_not_mem (Ne.symm (bne_iff_ne.mp hc)) hrest⟩
    · exact Or.inr (hcomment.cons c)
  | case3 c rest hblank ih =>
    simp only [List.cons_append, dropBlanks, hblank, if_true]
    refine ih.imp id fun ⟨hcomment, hnil, htaken⟩ => ⟨Or.inr ?_, hnil, htaken⟩
    rcases hcomment with ⟨hfalse, _⟩ | hcomment
    · exact absurd hfalse Bool.false_ne_true
    · exact hcomment.cons c
  | case4 rest hblank ih =>
    simp only [List.cons_append, dropBlanks, hblank, if_true, if_false, Bool.false_eq_true]
    refine ih.imp id fun ⟨hcomment, hnil, htaken⟩ => ⟨Or.inr ?_, hnil, htaken⟩
    rcases hcomment with ⟨_, hrest⟩ | hcomment
    · exact ⟨rest, List.suffix_refl _, hrest⟩
    · exact hcomment.cons '#'
  | case5 c rest hblank hsign =>
    refine Or.inl fun tail _ => ?_
    simp [dropBlanks, hblank, hsign]

theorem steady_skipBlanks : Steady skipBlanks σ := by
  cases hblanks : σ.ignoreBlanks with
  | false =>
    refine .of_run (skipBlanks_run_of_not hblanks) (List.suffix_refl _) fun tail _ => ?_
    exact skipBlanks_run_of_not hblanks
  | true =>
    have hlong : ∀ tail, skipBlanks.run (σ.followed tail) =
        some ((), { σ with rest := dropBlanks false (σ.rest ++ tail) }) := fun tail =>
      @skipBlanks_run_of (σ.followed tail) hblanks
    rcases dropBlanks_append false σ.rest with hleft | ⟨hcomment, hnil, htaken⟩
    · refine .of_run (skipBlanks_run_of hblanks) (dropBlanks_suffix _ _) fun tail htail => ?_
      rw [hlong, hleft tail htail]
      rfl
    · intro a τ hrun
      rw [skipBlanks_run_of hblanks, hnil] at hrun
      obtain ⟨-, rfl⟩ := Prod.mk.inj (Option.some.inj hrun)
      refine ⟨List.nil_suffix, fun _ => ?_, Or.inr ⟨?_, fun tail htail _ _ => ?_⟩⟩
      · rw [skipBlanks_run_of hblanks, hnil]
      · exact hcomment.resolve_left fun h => Bool.false_ne_true h.1
      · rw [hlong, htaken tail htail]

theorem steady_advanceAndSkip {c : Char} {after : List Char} (hrest : σ.rest = c :: after) :
    Steady advanceAndSkip σ :=
  (steady_advance hrest).bind fun _ _ _ => steady_skipBlanks

theorem steady_current : Steady current σ := by
  intro c τ hrun
  obtain ⟨rfl, after, hrest⟩ := rest_of_current_run hrun
  exact Steady.of_run hrun (List.suffix_refl _) (fun tail _ => current_run_of (by
    rw [Scanner.followed, hrest, List.cons_append])) c τ hrun

/-- What is read after a look at the next character. -/
theorem Steady.current_bind {next : Char → Parser β}
    (hnext : ∀ c after, σ.rest = c :: after → Steady (next c) σ) : Steady (current >>= next) σ := by
  refine steady_current.bind fun c τ hrun => ?_
  obtain ⟨rfl, after, hrest⟩ := rest_of_current_run hrun
  exact hnext c after hrest

/-- What is read after a look at the next character, where the end is as good as a closing parenthesis. -/
theorem Carries.peek_bind {next : Option Char → Parser β} {next' : Nat → Option Char → Parser β}
    (hsome : ∀ c after, σ.rest = c :: after →
      Carries (next (some c)) (fun room => next' room (some c)) σ)
    (hend : ∃ b, next none = pure b ∧ ∀ room, next' room none = pure b ∧ next' room (some ')') = pure b) :
    Carries (peek >>= next) (fun room => peek >>= next' room) σ := by
  have hpeek : ∀ σ : Scanner, peek.run σ = some (σ.rest.head?, σ) := fun _ => rfl
  intro b υ hrun
  rw [StateT.run_bind, hpeek] at hrun
  cases hrest : σ.rest with
  | nil =>
    obtain ⟨b', hnone, hlong⟩ := hend
    rw [hrest] at hrun
    have hresult : (next none).run σ = some (b, υ) := hrun
    rw [hnone] at hresult
    obtain ⟨rfl, rfl⟩ := Prod.mk.inj (Option.some.inj hresult)
    refine ⟨List.suffix_refl _, fun room => ?_, Or.inl fun tail htail room _ => ?_⟩
    · rw [StateT.run_bind, hpeek, hrest]
      exact congrArg (StateT.run · σ) (hlong room).1
    · obtain ⟨after, rfl⟩ := htail.head
      rw [StateT.run_bind, hpeek, Scanner.followed, hrest]
      exact congrArg (StateT.run · _) (hlong room).2
  | cons c after =>
    rw [hrest] at hrun
    have hlong : ∀ room tail, (peek >>= next' room).run (σ.followed tail) =
        (next' room (some c)).run (σ.followed tail) := by
      intro room tail
      rw [StateT.run_bind, hpeek, Scanner.followed, hrest]
      rfl
    have hcarried := hsome c after hrest b υ hrun
    refine ⟨hcarried.suffix, fun room => ?_, ?_⟩
    · rw [StateT.run_bind, hpeek, hrest]
      exact hcarried.again room
    · simp only [hlong]
      exact hcarried.tails

theorem steady_take? {text : List Char} (hparenthesis : ')' ∉ text) : Steady (take? text) σ := by
  have htake : ∀ σ : Scanner, (take? text).run σ =
      if text.isPrefixOf σ.rest then some (true, { σ with rest := σ.rest.drop text.length })
      else some (false, σ) := by
    intro σ
    have hrun : (take? text).run σ = (if text.isPrefixOf σ.rest then (do
        setRest (σ.rest.drop text.length)
        pure true : Parser Bool) else pure false).run σ := rfl
    rw [hrun]
    split <;> rfl
  by_cases hprefix : text.isPrefixOf σ.rest = true
  · have hrun := htake σ
    rw [if_pos hprefix] at hrun
    refine .of_run hrun (List.drop_suffix _ _) fun tail _ => ?_
    have hstarts := List.isPrefixOf_iff_prefix.mp hprefix
    have hlonger : text.isPrefixOf (σ.rest ++ tail) = true :=
      List.isPrefixOf_iff_prefix.mpr (hstarts.trans (List.prefix_append _ _))
    rw [htake, Scanner.followed, if_pos hlonger, List.drop_append_of_le_length hstarts.length_le]
    rfl
  · have hrun := htake σ
    rw [if_neg hprefix] at hrun
    refine .of_run hrun (List.suffix_refl _) fun tail htail => ?_
    -- A text that begins in the pattern and ends in the tail would hold the parenthesis.
    have hlonger : ¬ text.isPrefixOf (σ.rest ++ tail) = true := by
      rw [List.isPrefixOf_iff_prefix]
      rintro ⟨behind, hstarts⟩
      obtain ⟨after, rfl⟩ := htail.head
      rcases List.append_eq_append_iff.mp hstarts with ⟨more, hmore, -⟩ | ⟨more, htext, hmore⟩
      · exact hprefix (List.isPrefixOf_iff_prefix.mpr ⟨more, hmore.symm⟩)
      · cases more with
        | nil => exact hprefix (List.isPrefixOf_iff_prefix.mpr (by simp [htext]))
        | cons c more =>
          obtain ⟨rfl, -⟩ := List.cons.inj hmore
          exact hparenthesis (htext ▸ List.mem_append_right _ List.mem_cons_self)
    rw [htake, Scanner.followed, if_neg hlonger]

/-- What is read with a bound for the number of steps, which grows with the pattern. -/
theorem Steady.steps_bind {next : Nat → Parser β}
    (hnext : Carries (next (σ.rest.length + 1)) (fun room => next (σ.rest.length + 1 + room)) σ) :
    Steady (steps >>= next) σ := by
  have hsteps : ∀ σ : Scanner, (steps >>= next).run σ = (next (σ.rest.length + 1)).run σ := fun _ => rfl
  have hlong : ∀ tail, (steps >>= next).run (σ.followed tail) =
      (next (σ.rest.length + 1 + tail.length)).run (σ.followed tail) := by
    intro tail
    rw [hsteps, Scanner.followed, List.length_append, Nat.add_right_comm]
  intro b υ hrun
  have hcarried := hnext b υ ((hsteps σ).symm.trans hrun)
  refine ⟨hcarried.suffix, fun _ => hrun, ?_⟩
  simp only [hlong]
  exact hcarried.tails.imp (fun hleft tail htail _ _ => hleft tail htail _ (Nat.le_refl _))
    fun ⟨hcomment, htaken⟩ => ⟨hcomment, fun tail htail _ _ => htaken tail htail _ (Nat.le_refl _)⟩

/-! ## Numbers -/

theorem length_lt_of_advanceAndSkip_run {c : Char} {after : List Char} (hrest : σ.rest = c :: after)
    (hrun : advanceAndSkip.run σ = some ((), τ)) : τ.rest.length < σ.rest.length := by
  rw [advanceAndSkip, StateT.run_bind] at hrun
  obtain ⟨⟨_, middle⟩, hfirst, hsecond⟩ := Option.bind_eq_some_iff.mp hrun
  have hadvance : advance.run σ = some ((), { σ with rest := σ.rest.tail }) := rfl
  obtain ⟨-, rfl⟩ := Prod.mk.inj (Option.some.inj (hadvance.symm.trans hfirst))
  have hsuffix : τ.rest.length ≤ σ.rest.tail.length := (steady_skipBlanks _ _ hsecond).suffix.length_le
  rw [hrest, List.tail_cons] at hsuffix
  rw [hrest, List.length_cons]
  omega

theorem carries_digitRun {isDigit : Char → Bool} (hparenthesis : isDigit ')' = false) (steps : Nat)
    (taken : List Char) (hsteps : σ.rest.length < steps) :
    Carries (digitRun isDigit steps taken) (fun room => digitRun isDigit (steps + room) taken) σ := by
  induction steps generalizing σ taken with
  | zero => exact absurd hsteps (Nat.not_lt_zero _)
  | succ steps ih =>
    simp only [Nat.add_right_comm steps 1, digitRun]
    refine .peek_bind (fun c after hrest => ?_) ⟨taken, rfl, fun _ => ⟨rfl, ?_⟩⟩
    · by_cases hdigit : isDigit c = true
      · simp only [hdigit, if_true]
        refine Carries.bind (steady_advanceAndSkip hrest) fun _ τ hrun => ih _ ?_
        have hless := length_lt_of_advanceAndSkip_run hrest hrun
        omega
      · simp only [hdigit]
        exact Steady.pure _
    · simp [hparenthesis]

theorem carries_skipWhitespace (steps : Nat) (hsteps : σ.rest.length < steps) :
    Carries (skipWhitespace steps) (fun room => skipWhitespace (steps + room)) σ := by
  induction steps generalizing σ with
  | zero => exact absurd hsteps (Nat.not_lt_zero _)
  | succ steps ih =>
    simp only [Nat.add_right_comm steps 1, skipWhitespace]
    refine .peek_bind (fun c after hrest => ?_) ⟨(), rfl, fun _ => ⟨rfl, rfl⟩⟩
    by_cases hblank : Character.isWhitespace c = true
    · simp only [hblank, if_true]
      refine Carries.bind (steady_advanceAndSkip hrest) fun _ τ hrun => ih ?_
      have hless := length_lt_of_advanceAndSkip_run hrest hrun
      omega
    · simp only [hblank]
      exact Steady.pure _

theorem dropWhile_append_closing {p : Char → Bool} (hparenthesis : p ')' = false) (text : List Char)
    {tail : List Char} (htail : Closing tail) :
    (text ++ tail).dropWhile p = text.dropWhile p ++ tail := by
  obtain ⟨after, rfl⟩ := htail.head
  rw [List.dropWhile_append]
  split
  · rename_i hnil
    rw [List.isEmpty_iff.mp hnil, List.dropWhile_cons, hparenthesis]
    rfl
  · rfl

theorem steady_decimalDigits : Steady decimalDigits σ := by
  rw [decimalDigits]
  refine .steps_bind (Carries.bind (carries_digitRun rfl _ _ (Nat.lt_succ_self _)) fun digits _ _ => ?_)
  refine Steady.steps_bind (Carries.bind (carries_skipWhitespace _ (Nat.lt_succ_self _)) fun _ _ _ => ?_)
  split
  · split
    · exact Steady.pure _
    · exact Steady.failure
  · exact Steady.failure

theorem steady_decimal : Steady decimal σ := by
  have hblanks : ∀ σ : Scanner,
      (do setRest ((← rest).dropWhile Character.isWhitespace) : Parser Unit).run σ =
        some ((), { σ with rest := σ.rest.dropWhile Character.isWhitespace }) := fun _ => rfl
  rw [decimal_eq]
  refine Steady.bind (.of_run (hblanks σ) (List.dropWhile_suffix _) fun tail htail => ?_)
    fun _ _ _ => steady_decimalDigits
  rw [hblanks, Scanner.followed, dropWhile_append_closing rfl _ htail]
  rfl

theorem steady_charOf (code : Nat) : Steady (charOf code) σ := by
  rw [charOf]
  split
  · exact .pure _
  · exact .failure

theorem steady_hexRun (count : Nat) (taken : List Char) : Steady (hexRun count taken) σ := by
  induction count generalizing σ taken with
  | zero => exact .pure _
  | succ count ih =>
    rw [hexRun]
    refine .current_bind fun c after hrest => ?_
    split
    · exact .failure_bind
    · exact (steady_advanceAndSkip hrest).bind fun _ _ _ => ih _

theorem steady_hexLiteral : Steady hexLiteral σ := by
  rw [hexLiteral]
  refine .current_bind fun kind after hrest => (steady_advanceAndSkip hrest).bind fun _ σ _ => ?_
  refine .current_bind fun c after hrest => ?_
  split
  · refine (steady_advanceAndSkip hrest).bind fun _ σ _ => .steps_bind ?_
    refine Carries.bind (carries_digitRun rfl _ _ (Nat.lt_succ_self _)) fun digits σ _ => ?_
    refine Steady.current_bind fun c after hrest => ?_
    dsimp only
    by_cases hbrace : c ≠ '}'
    · rw [if_pos hbrace]
      exact .failure_bind
    · rw [if_neg hbrace]
      refine (steady_advanceAndSkip hrest).bind fun _ _ _ => ?_
      split
      · exact (steady_charOf _).bind fun _ _ _ => .pure _
      · exact .failure
  · refine (steady_hexRun _ _).bind fun digits _ _ => ?_
    split
    · exact (steady_charOf _).bind fun _ _ _ => .pure _
    · exact .failure

/-! ## Escapes -/

theorem carries_braced (steps : Nat) (taken : List Char) :
    Carries (braced steps taken) (fun room => braced (steps + room) taken) σ := by
  induction steps generalizing σ taken with
  | zero => exact .failure _
  | succ steps ih =>
    simp only [Nat.add_right_comm steps 1, braced]
    refine Carries.bind steady_current fun c τ hrun => ?_
    obtain ⟨rfl, after, hrest⟩ := rest_of_current_run hrun
    split
    · exact Steady.bind (steady_advance hrest) fun _ _ _ => .pure _
    · exact Carries.bind (steady_advanceAndSkip hrest) fun _ _ _ => ih _

theorem steady_propertyClass : Steady propertyClass σ := by
  rw [propertyClass]
  refine .current_bind fun kind after hrest => (steady_advanceAndSkip hrest).bind fun _ σ _ => ?_
  refine .current_bind fun c after hrest => ?_
  split
  · refine (steady_advanceAndSkip hrest).bind fun _ σ _ => .steps_bind ?_
    exact Carries.bind (carries_braced _ _) fun _ _ _ => Steady.pure _
  · split
    · exact .failure
    · exact (steady_advanceAndSkip hrest).bind fun _ _ _ => .pure _

theorem steady_namedBoundary : Steady namedBoundary σ := by
  rw [namedBoundary]
  refine .steps_bind (Carries.bind (carries_digitRun rfl _ _ (Nat.lt_succ_self _)) fun name τ _ => ?_)
  refine Steady.current_bind fun c after hrest => ?_
  dsimp only
  by_cases hbrace : c ≠ '}'
  · rw [if_pos hbrace]
    exact .failure_bind
  · rw [if_neg hbrace]
    refine (steady_advance hrest).bind fun _ _ _ => ?_
    split
    all_goals first | exact .pure _ | exact .failure

theorem steady_boundaryName {c : Char} {after : List Char} (hrest : σ.rest = c :: after) :
    Steady boundaryName σ := by
  have hlead : Steady (do advanceAndSkip; current : Parser Char) σ :=
    (steady_advanceAndSkip hrest).bind fun _ _ _ => steady_current
  intro a τ hrun
  have hresult := hrun
  rw [boundaryName_run, bind_run_some] at hresult
  obtain ⟨letter, υ, hfirst, hsecond⟩ := hresult
  by_cases hletter : isBoundaryLetter letter = true
  · have hnamed : Steady (do
        let c ← (do advanceAndSkip; current)
        if isBoundaryLetter c then namedBoundary else failure : Parser (Option Assertion)) σ := by
      refine hlead.bind fun c _ _ => ?_
      split
      · exact steady_namedBoundary
      · exact .failure
    refine (hnamed a τ ?_).mono fun _ σ' b υ' hlong => ?_
    · rw [StateT.run_bind, hfirst]
      simpa [hletter] using hsecond
    · obtain ⟨c, υ, hc, hlong⟩ := bind_run_some.mp hlong
      rw [boundaryName_run, StateT.run_bind, hc]
      by_cases hboundary : isBoundaryLetter c = true
      · simpa [hboundary] using hlong
      · simp only [hboundary] at hlong
        exact absurd hlong (Option.some_ne_none _).symm
  · -- What comes after the brace is no name: the reader goes back to the brace and all that follows it.
    have hback : ∀ σ' υ', (do advanceAndSkip; current : Parser Char).run σ' = some (letter, υ') →
        boundaryName.run σ' = some (none, { υ' with rest := σ'.rest }) := by
      intro σ' υ' hletter'
      rw [boundaryName_run, StateT.run_bind, hletter']
      simp only [Option.bind_eq_bind, Option.bind_some, hletter]
      rfl
    obtain ⟨rfl, rfl⟩ := Prod.mk.inj (Option.some.inj ((hback σ υ hfirst).symm.trans hrun))
    refine ⟨List.suffix_refl _, fun _ => hrun, Or.inl fun tail htail room hroom => ?_⟩
    rcases (hlead letter υ hfirst).tails with hleft | ⟨-, htaken⟩
    · have hresult := hback _ _ (hleft tail htail room hroom)
      exact hresult
    · have hresult := hback _ _ (htaken tail htail room hroom)
      exact hresult

theorem steady_escape {c : Char} {after : List Char} (hrest : σ.rest = c :: after) : Steady escape σ := by
  rw [escape_eq]
  refine (steady_advance hrest).bind fun _ σ _ => .current_bind fun c after hrest => ?_
  unfold escapeOf
  split
  · exact steady_hexLiteral.bind fun _ _ _ => .pure _
  split
  · exact steady_propertyClass
  refine (steady_advance hrest).bind fun _ σ _ => ?_
  split
  · refine Carries.peek_bind (fun c after hrest => ?_) ⟨_, rfl, fun _ => ⟨rfl, rfl⟩⟩
    split
    · exact Steady.bind (steady_boundaryName hrest) fun _ _ _ => .pure _
    · exact Steady.pure _
  · cases bareEscape? c with
    | some primitive => exact .pure _
    | none => exact .failure

theorem steady_primitive : Steady primitive σ := by
  rw [primitive_eq]
  refine .current_bind fun c after hrest => ?_
  split
  · exact steady_escape hrest
  · exact (steady_advance hrest).bind fun _ _ _ => .pure _

end Parser

end EditorBridge.Regex
