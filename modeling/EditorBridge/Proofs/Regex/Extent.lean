import EditorBridge.Proofs.Regex.Parts
/-!
How far readers go.  Where no blanks are ignored a reader takes a front part off the pattern, and what that
part looks like follows from what the reader found: the extent of numbers, escapes, counted repetitions and
the headers of groups.
-/

set_option autoImplicit false

namespace EditorBridge.Regex.Parser

variable {α β : Type} {σ τ : Scanner}

/-- What a reader takes off the front of a pattern, with no blanks ignored behind it. -/
def Takes (parser : Parser α) (σ : Scanner) (post : α → List Char → Prop) : Prop :=
  ∀ a τ, parser.run σ = some (a, τ) →
    ∃ taken, σ.rest = taken ++ τ.rest ∧ τ.ignoreBlanks = false ∧ post a taken

namespace Takes

theorem mono {parser : Parser α} {post post' : α → List Char → Prop} (h : Takes parser σ post)
    (hpost : ∀ a taken, post a taken → post' a taken) : Takes parser σ post' := by
  intro a τ hrun
  obtain ⟨taken, hrest, hblanks, hholds⟩ := h a τ hrun
  exact ⟨taken, hrest, hblanks, hpost a taken hholds⟩

theorem bind {first : Parser α} {next : α → Parser β} {post : α → List Char → Prop}
    {post' : β → List Char → Prop} (hfirst : Takes first σ post)
    (hnext : ∀ a taken τ, σ.rest = taken ++ τ.rest → τ.ignoreBlanks = false → post a taken →
      Takes (next a) τ fun b more => post' b (taken ++ more)) : Takes (first >>= next) σ post' := by
  intro b τ hrun
  obtain ⟨a, υ, hone, htwo⟩ := bind_run_some.mp hrun
  obtain ⟨taken, hrest, hblanks, hpost⟩ := hfirst a υ hone
  obtain ⟨more, hmore, hblanks', hpost'⟩ := hnext a taken υ hrest hblanks hpost b τ htwo
  exact ⟨taken ++ more, by rw [hrest, hmore, List.append_assoc], hblanks', hpost'⟩

theorem pure {a : α} {post : α → List Char → Prop} (hblanks : σ.ignoreBlanks = false) (hpost : post a []) :
    Takes (pure a : Parser α) σ post := by
  intro b τ hrun
  obtain ⟨rfl, rfl⟩ := pure_run_some.mp hrun
  exact ⟨[], rfl, hblanks, hpost⟩

theorem failure {post : α → List Char → Prop} : Takes (failure : Parser α) σ post :=
  fun _ _ hrun => absurd hrun failure_run_ne_some

theorem failure_bind {next : α → Parser β} {post : β → List Char → Prop} :
    Takes (Alternative.failure >>= next) σ post :=
  fun _ _ hrun => absurd hrun failure_bind_run_ne_some

/-- A reader that begins as another one goes on. -/
theorem of_run_eq {parser other : Parser α} {post : α → List Char → Prop} (h : Takes other σ post)
    (hrun : parser.run σ = other.run σ) : Takes parser σ post :=
  fun a τ hresult => h a τ (hrun ▸ hresult)

theorem advance {c : Char} {after : List Char} (hrest : σ.rest = c :: after)
    (hblanks : σ.ignoreBlanks = false) :
    Takes advance σ fun _ taken => taken = [c] := by
  intro _ τ hrun
  obtain ⟨-, rfl⟩ := Prod.mk.inj (Option.some.inj ((advance_run_of hrest).symm.trans hrun))
  exact ⟨[c], hrest, hblanks, rfl⟩

theorem advanceAndSkip {c : Char} {after : List Char} (hrest : σ.rest = c :: after)
    (hblanks : σ.ignoreBlanks = false) :
    Takes advanceAndSkip σ fun _ taken => taken = [c] := by
  refine (advance hrest hblanks).bind fun _ taken τ _ hblanks htaken => ?_
  intro _ υ hrun
  obtain ⟨-, rfl⟩ := Prod.mk.inj (Option.some.inj ((skipBlanks_run_of_not hblanks).symm.trans hrun))
  subst htaken
  exact ⟨[], rfl, hblanks, List.append_nil _⟩

/-- What follows a reader that takes one given character. -/
theorem bind_one {first : Parser Unit} {next : Unit → Parser β} {post : β → List Char → Prop} {c : Char}
    (hfirst : Takes first σ fun _ taken => taken = [c])
    (hnext : ∀ τ, σ.rest = c :: τ.rest → τ.ignoreBlanks = false →
      Takes (next ()) τ fun b more => post b (c :: more)) : Takes (first >>= next) σ post := by
  refine hfirst.bind fun _ taken τ hrest hblanks htaken => ?_
  subst htaken
  exact hnext τ hrest hblanks

theorem current_bind {next : Char → Parser β} {post : β → List Char → Prop}
    (hnext : ∀ c after, σ.rest = c :: after → Takes (next c) σ post) : Takes (current >>= next) σ post := by
  intro b τ hrun
  obtain ⟨c, υ, hcurrent, hresult⟩ := bind_run_some.mp hrun
  obtain ⟨rfl, after, hrest⟩ := rest_of_current_run hcurrent
  exact hnext c after hrest b τ hresult

theorem steps_bind {next : Nat → Parser β} {post : β → List Char → Prop}
    (hnext : ∀ steps, Takes (next steps) σ post) : Takes (steps >>= next) σ post :=
  (hnext (σ.rest.length + 1)).of_run_eq rfl

theorem peek_bind {next : Option Char → Parser β} {post : β → List Char → Prop}
    (hnext : Takes (next σ.rest.head?) σ post) : Takes (peek >>= next) σ post :=
  hnext.of_run_eq rfl

theorem map {parser : Parser α} {f : α → β} {post : β → List Char → Prop}
    (h : Takes parser σ fun a taken => post (f a) taken) : Takes (f <$> parser) σ post := by
  rw [map_eq_pure_bind]
  refine h.bind fun a taken τ _ hblanks hpost => .pure hblanks ?_
  rwa [List.append_nil]

end Takes

/-! ## Numbers -/

theorem takes_digitRun {isDigit : Char → Bool} (steps : Nat) (digits : List Char)
    (hblanks : σ.ignoreBlanks = false) :
    Takes (digitRun isDigit steps digits) σ fun _ taken => ∀ c ∈ taken, isDigit c = true := by
  induction steps generalizing σ digits with
  | zero => exact .pure hblanks (List.forall_mem_nil _)
  | succ steps ih =>
    rw [digitRun]
    refine .peek_bind ?_
    cases hrest : σ.rest with
    | nil => exact .pure hblanks (List.forall_mem_nil _)
    | cons c after =>
      rw [List.head?_cons]
      by_cases hdigit : isDigit c = true
      · simp only [hdigit, if_true]
        refine .bind_one (.advanceAndSkip hrest hblanks) fun τ _ hblanks => ?_
        exact (ih _ hblanks).mono fun _ more hmore => List.forall_mem_cons.mpr ⟨hdigit, hmore⟩
      · simp only [hdigit]
        exact .pure hblanks (List.forall_mem_nil _)

theorem takes_skipWhitespace (steps : Nat) (hblanks : σ.ignoreBlanks = false) :
    Takes (skipWhitespace steps) σ fun _ taken => ∀ c ∈ taken, Character.isWhitespace c = true := by
  induction steps generalizing σ with
  | zero => exact .pure hblanks (List.forall_mem_nil _)
  | succ steps ih =>
    rw [skipWhitespace]
    refine .peek_bind ?_
    cases hrest : σ.rest with
    | nil => exact .pure hblanks (List.forall_mem_nil _)
    | cons c after =>
      rw [List.head?_cons]
      by_cases hblank : Character.isWhitespace c = true
      · simp only [hblank, if_true]
        refine .bind_one (.advanceAndSkip hrest hblanks) fun τ _ hblanks => ?_
        exact (ih hblanks).mono fun _ more hmore => List.forall_mem_cons.mpr ⟨hblank, hmore⟩
      · simp only [hblank]
        exact .pure hblanks (List.forall_mem_nil _)

/-- There is no brace in a number. -/
theorem takes_decimal (hblanks : σ.ignoreBlanks = false) :
    Takes decimal σ fun _ taken => '}' ∉ taken := by
  have hfirst : Takes (do setRest ((← rest).dropWhile Character.isWhitespace)) σ
      fun _ taken => '}' ∉ taken := by
    intro _ τ hrun
    obtain ⟨-, rfl⟩ := Prod.mk.inj (Option.some.inj hrun)
    refine ⟨σ.rest.takeWhile Character.isWhitespace, List.takeWhile_append_dropWhile.symm, hblanks, ?_⟩
    exact fun hbrace => absurd (List.all_eq_true.mp List.all_takeWhile _ hbrace) (by decide)
  rw [decimal_eq, decimalDigits]
  refine hfirst.bind fun _ front τ _ hblanks hfront => .steps_bind fun steps => ?_
  refine (takes_digitRun steps [] hblanks).bind fun digits middle τ _ hblanks hmiddle => ?_
  refine .steps_bind fun steps => (takes_skipWhitespace steps hblanks).bind fun _ back τ _ hblanks hback => ?_
  have htaken : '}' ∉ front ++ (middle ++ (back ++ [])) := by
    simp only [List.append_nil, List.mem_append, not_or]
    exact ⟨hfront, fun h => absurd (hmiddle _ h) (by decide), fun h => absurd (hback _ h) (by decide)⟩
  split
  · split
    · exact .pure hblanks htaken
    · exact .failure
  · exact .failure

/-! ## Repetition -/

theorem takes_greediness (hblanks : σ.ignoreBlanks = false) :
    Takes greediness σ fun _ taken => taken = [] ∨ taken = ['?'] := by
  rw [greediness]
  refine .peek_bind ?_
  split
  · rename_i hlazy
    obtain ⟨after, hrest⟩ := List.head?_eq_some_iff.mp hlazy
    exact .bind_one (.advance hrest hblanks) fun τ _ hblanks => .pure hblanks (Or.inr rfl)
  · exact .pure hblanks (Or.inl rfl)

theorem Takes.repeatable_bind {next : Ast × List Ast → Parser β} {post : β → List Char → Prop}
    (parts : List Ast) (hnext : ∀ ast before, Takes (next (ast, before)) σ post) :
    Takes (repeatable parts >>= next) σ post := by
  intro b τ hrun
  obtain ⟨⟨ast, before⟩, υ, hfound, hresult⟩ := bind_run_some.mp hrun
  obtain ⟨rfl, -⟩ := repeatable_run hfound
  exact hnext ast before b τ hresult

/-- An operator of one character, and a question mark that may follow. -/
theorem takes_simpleRepetition (least : Nat) (most : Option Nat) (parts : List Ast) {c : Char}
    {after : List Char} (hrest : σ.rest = c :: after) (hblanks : σ.ignoreBlanks = false) :
    Takes (simpleRepetition least most parts) σ fun _ taken => taken = [c] ∨ taken = [c, '?'] := by
  rw [simpleRepetition]
  refine .repeatable_bind parts fun ast before => ?_
  refine .bind_one (.advance hrest hblanks) fun τ _ hblanks => ?_
  refine (takes_greediness hblanks).bind fun greedy lazy τ _ hblanks hlazy => .pure hblanks ?_
  rw [List.append_nil]
  exact hlazy.imp (congrArg _) (congrArg _)

theorem takes_upperBound (least : Nat) (hblanks : σ.ignoreBlanks = false) :
    Takes (upperBound least) σ fun _ taken => '}' ∉ taken := by
  rw [upperBound]
  refine .current_bind fun c after hrest => ?_
  split
  · rename_i hcomma
    refine .bind_one (.advanceAndSkip hrest hblanks) fun τ _ hblanks => .current_bind fun d _ _ => ?_
    have hfront : ∀ more : List Char, '}' ∉ more → '}' ∉ c :: more := by
      intro more hmore hmem
      rcases List.mem_cons.mp hmem with heq | hmem
      · exact absurd (heq.trans hcomma) (by decide)
      · exact hmore hmem
    split
    · exact .pure hblanks (hfront [] List.not_mem_nil)
    · exact .map ((takes_decimal hblanks).mono fun _ => hfront)
  · exact .pure hblanks List.not_mem_nil

theorem takes_repetitionEnd (least : Nat) (most : Option Nat) (ast : Ast) (hblanks : σ.ignoreBlanks = false) :
    Takes (repetitionEnd least most ast) σ fun _ taken => taken = ['}'] ∨ taken = ['}', '?'] := by
  rw [repetitionEnd]
  refine .current_bind fun c after hrest => ?_
  dsimp only
  split
  · exact .failure_bind
  · rename_i hclose
    cases Decidable.of_not_not hclose
    refine .bind_one (.advanceAndSkip hrest hblanks) fun τ _ hblanks => ?_
    refine (takes_greediness hblanks).bind fun greedy lazy τ _ hblanks hlazy => ?_
    split
    · exact .failure_bind
    · refine .pure hblanks ?_
      rw [List.append_nil]
      exact hlazy.imp (congrArg _) (congrArg _)

/-- Bounds in braces, and a question mark that may follow. -/
theorem takes_countedRepetition (parts : List Ast) {after : List Char} (hrest : σ.rest = '{' :: after)
    (hblanks : σ.ignoreBlanks = false) :
    Takes (countedRepetition parts) σ fun _ taken => ∃ bounds, '}' ∉ bounds ∧
      (taken = '{' :: bounds ++ ['}'] ∨ taken = '{' :: bounds ++ ['}', '?']) := by
  rw [countedRepetition_eq]
  refine .repeatable_bind parts fun ast before => ?_
  refine .bind_one (.advanceAndSkip hrest hblanks) fun τ _ hblanks => ?_
  refine (takes_decimal hblanks).bind fun least lower τ _ hblanks hlower => ?_
  refine (takes_upperBound least hblanks).bind fun most upper τ _ hblanks hupper => ?_
  refine (takes_repetitionEnd least most ast hblanks).bind fun part close τ _ hblanks hclose => ?_
  refine .pure hblanks ⟨lower ++ upper, ?_, ?_⟩
  · rw [List.mem_append, not_or]
    exact ⟨hlower, hupper⟩
  · rcases hclose with rfl | rfl
    · exact Or.inl (by simp)
    · exact Or.inr (by simp)

/-! ## Escapes -/

theorem takes_hexRun (count : Nat) (digits : List Char) (hblanks : σ.ignoreBlanks = false) :
    Takes (hexRun count digits) σ fun _ taken => taken.length = count ∧
      ∀ d ∈ taken, (CharSet.hexDigit? d).isSome = true := by
  induction count generalizing σ digits with
  | zero => exact .pure hblanks ⟨rfl, List.forall_mem_nil _⟩
  | succ count ih =>
    rw [hexRun]
    refine .current_bind fun c after hrest => ?_
    dsimp only
    split
    · exact .failure_bind
    · rename_i hdigit
      have hsome : (CharSet.hexDigit? c).isSome = true :=
        Option.isSome_iff_ne_none.mpr fun hnone => hdigit (by rw [hnone]; rfl)
      refine .bind_one (.advanceAndSkip hrest hblanks) fun τ _ hblanks => (ih _ hblanks).mono fun _ more hmore => ?_
      exact ⟨congrArg Nat.succ hmore.1, List.forall_mem_cons.mpr ⟨hsome, hmore.2⟩⟩

theorem takes_charOf (code : Nat) (hblanks : σ.ignoreBlanks = false) :
    Takes (charOf code) σ fun _ taken => taken = [] := by
  rw [charOf]
  split
  · exact .pure hblanks rfl
  · exact .failure

/-- Whether a text is made of hexadecimal digits. -/
def AllHex (digits : List Char) : Prop := ∀ d ∈ digits, (CharSet.hexDigit? d).isSome = true

/-- What can be behind a backslash and the character after it. -/
inductive EscapeTail : Char → List Char → Prop
  | bare {c : Char} (hc : c ∉ ['x', 'u', 'U', 'p', 'P']) : EscapeTail c []
  | code {c d : Char} {digits : List Char} (hc : c ∈ ['x', 'u', 'U']) (hdigits : AllHex (d :: digits)) :
    EscapeTail c (d :: digits)
  | bracedCode {c : Char} {digits : List Char} (hc : c ∈ ['x', 'u', 'U']) (hdigits : AllHex digits) :
    EscapeTail c ('{' :: digits ++ ['}'])
  | letter {c d : Char} (hc : c ∈ ['p', 'P']) (hbrace : d ≠ '{') (hescape : d ≠ '\\') : EscapeTail c [d]
  | name {c : Char} {name : List Char} (hc : c ∈ ['p', 'P']) (hname : '}' ∉ name) :
    EscapeTail c ('{' :: name ++ ['}'])
  | boundary {name : List Char} (hname : ∀ d ∈ name, isBoundaryLetter d = true) :
    EscapeTail 'b' ('{' :: name ++ ['}'])

theorem takes_hexLiteral {c : Char} {after : List Char} (hrest : σ.rest = c :: after)
    (hblanks : σ.ignoreBlanks = false) (hc : c ∈ ['x', 'u', 'U']) :
    Takes hexLiteral σ fun _ taken => ∃ tail, taken = c :: tail ∧ tail ≠ [] ∧ EscapeTail c tail := by
  rw [hexLiteral]
  refine .current_bind fun kind _ hkind => ?_
  cases hkind.symm.trans hrest
  dsimp only
  refine .bind_one (.advanceAndSkip hrest hblanks) fun τ _ hblanks => .current_bind fun d after hrest => ?_
  split
  · rename_i hopen
    cases hopen
    refine .bind_one (.advanceAndSkip hrest hblanks) fun τ _ hblanks => .steps_bind fun steps => ?_
    refine (takes_digitRun steps [] hblanks).bind fun digits text τ _ hblanks htext => ?_
    refine .current_bind fun e after hrest => ?_
    split
    · exact .failure_bind
    · rename_i hclose
      cases Decidable.of_not_not hclose
      refine .bind_one (.advanceAndSkip hrest hblanks) fun τ _ hblanks => ?_
      split
      · refine (takes_charOf _ hblanks).bind fun char more τ _ hblanks hmore => .pure hblanks ?_
        subst hmore
        exact ⟨'{' :: text ++ ['}'], rfl, by simp, .bracedCode hc htext⟩
      · exact .failure
  · refine (takes_hexRun _ [] hblanks).bind fun digits text τ _ hblanks htext => ?_
    split
    · refine (takes_charOf _ hblanks).bind fun char more τ _ hblanks hmore => .pure hblanks ?_
      subst hmore
      have hlength : text ≠ [] := by
        rintro rfl
        have hcount := htext.1
        rw [List.length_nil] at hcount
        repeat' split at hcount
        all_goals contradiction
      obtain ⟨first, rest, rfl⟩ := List.exists_cons_of_ne_nil hlength
      exact ⟨first :: rest, by simp, by simp, .code hc htext.2⟩
    · exact .failure

theorem takes_braced (steps : Nat) (taken : List Char) (hblanks : σ.ignoreBlanks = false) :
    Takes (braced steps taken) σ fun _ taken => ∃ name, taken = name ++ ['}'] ∧ '}' ∉ name := by
  induction steps generalizing σ taken with
  | zero => exact .failure
  | succ steps ih =>
    rw [braced]
    refine .current_bind fun c after hrest => ?_
    split
    · rename_i hclose
      cases hclose
      refine .bind_one (.advance hrest hblanks) fun τ _ hblanks => .pure hblanks ?_
      exact ⟨[], rfl, List.not_mem_nil⟩
    · rename_i hopen
      refine .bind_one (.advanceAndSkip hrest hblanks) fun τ _ hblanks => (ih _ hblanks).mono ?_
      rintro _ _ ⟨name, rfl, hname⟩
      refine ⟨c :: name, rfl, fun hmem => ?_⟩
      exact (List.mem_cons.mp hmem).elim (fun heq => hopen heq.symm) hname

theorem takes_propertyClass {c : Char} {after : List Char} (hrest : σ.rest = c :: after)
    (hblanks : σ.ignoreBlanks = false) (hc : c ∈ ['p', 'P']) :
    Takes propertyClass σ fun _ taken => ∃ tail, taken = c :: tail ∧ tail ≠ [] ∧ EscapeTail c tail := by
  rw [propertyClass]
  refine .current_bind fun kind _ hkind => ?_
  cases hkind.symm.trans hrest
  dsimp only
  refine .bind_one (.advanceAndSkip hrest hblanks) fun τ _ hblanks => .current_bind fun d after hrest => ?_
  split
  · rename_i hopen
    cases hopen
    refine .bind_one (.advanceAndSkip hrest hblanks) fun τ _ hblanks => .steps_bind fun steps => ?_
    refine (takes_braced steps [] hblanks).bind ?_
    rintro _ _ τ _ hblanks ⟨name, rfl, hname⟩
    refine .pure hblanks ⟨'{' :: name ++ ['}'], by simp, by simp, .name hc hname⟩
  · rename_i hopen
    split
    · exact .failure
    · rename_i hescape
      refine .bind_one (.advanceAndSkip hrest hblanks) fun τ _ hblanks => .pure hblanks ?_
      exact ⟨[d], rfl, by simp, .letter hc hopen hescape⟩

theorem takes_namedBoundary (hblanks : σ.ignoreBlanks = false) :
    Takes namedBoundary σ fun _ taken => ∃ name, taken = name ++ ['}'] ∧
      ∀ d ∈ name, isBoundaryLetter d = true := by
  rw [namedBoundary]
  refine .steps_bind fun steps => (takes_digitRun steps [] hblanks).bind fun name text τ _ hblanks htext => ?_
  refine .current_bind fun c after hrest => ?_
  dsimp only
  split
  · exact .failure_bind
  · rename_i hclose
    cases Decidable.of_not_not hclose
    refine .bind_one (.advance hrest hblanks) fun τ _ hblanks => ?_
    split <;> first | exact .failure | exact .pure hblanks ⟨text, rfl, htext⟩

/-- The name of a word boundary is taken with its braces, and anything else is left. -/
theorem takes_boundaryName {after : List Char} (hrest : σ.rest = '{' :: after)
    (hblanks : σ.ignoreBlanks = false) :
    Takes boundaryName σ fun found taken => found = none ∧ taken = [] ∨ EscapeTail 'b' taken ∧ taken ≠ [] := by
  intro found τ hrun
  rw [boundaryName_run, bind_run_some] at hrun
  obtain ⟨c, υ, hfirst, hnext⟩ := hrun
  have hopen : Takes (do advanceAndSkip; current) σ fun _ taken => taken = ['{'] :=
    .bind_one (.advanceAndSkip hrest hblanks) fun τ _ hblanks d υ hcurrent => by
      obtain ⟨rfl, -⟩ := rest_of_current_run hcurrent
      exact ⟨[], rfl, hblanks, rfl⟩
  obtain ⟨_, hfront, hblanks, rfl⟩ := hopen c υ hfirst
  split at hnext
  · obtain ⟨_, hset, rfl⟩ := map_run_some.mp hnext
    obtain ⟨-, rfl⟩ := Prod.mk.inj (Option.some.inj hset)
    exact ⟨[], rfl, hblanks, Or.inl ⟨rfl, rfl⟩⟩
  · obtain ⟨taken, htaken, hblanks, name, rfl, hname⟩ := takes_namedBoundary hblanks found τ hnext
    refine ⟨'{' :: name ++ ['}'], ?_, hblanks, Or.inr ⟨.boundary hname, by simp⟩⟩
    rw [hfront, htaken]
    rfl

/-- An escape is a backslash, a character and what belongs to that one. -/
theorem takes_escape {after : List Char} (hrest : σ.rest = '\\' :: after) (hblanks : σ.ignoreBlanks = false) :
    Takes escape σ fun primitive taken => ∃ c tail, taken = '\\' :: c :: tail ∧ EscapeTail c tail ∧
      (tail = [] → bareEscape? c = some primitive) := by
  rw [escape_eq]
  refine .bind_one (.advance hrest hblanks) fun τ _ hblanks => .current_bind fun c after hrest => ?_
  unfold escapeOf
  split
  · rename_i hcode
    refine .map ((takes_hexLiteral hrest hblanks hcode).mono ?_)
    rintro literal taken ⟨tail, rfl, hne, htail⟩
    exact ⟨c, tail, rfl, htail, fun hnil => absurd hnil hne⟩
  split
  · rename_i hproperty
    refine (takes_propertyClass hrest hblanks hproperty).mono ?_
    rintro primitive taken ⟨tail, rfl, hne, htail⟩
    exact ⟨c, tail, rfl, htail, fun hnil => absurd hnil hne⟩
  rename_i hcode hproperty
  have hc : c ∉ ['x', 'u', 'U', 'p', 'P'] := fun hmem =>
    (List.mem_append.mp (hmem : c ∈ ['x', 'u', 'U'] ++ ['p', 'P'])).elim hcode hproperty
  refine .bind_one (.advance hrest hblanks) fun τ _ hblanks => ?_
  split
  · rename_i hboundary
    cases hboundary
    refine .peek_bind ?_
    split
    · rename_i hopen
      obtain ⟨after, hrest⟩ := List.head?_eq_some_iff.mp hopen
      refine (takes_boundaryName hrest hblanks).bind ?_
      rintro found taken τ - hblanks (⟨rfl, rfl⟩ | ⟨htail, hne⟩)
      · exact .pure hblanks ⟨'b', [], rfl, .bare hc, fun _ => rfl⟩
      · refine .pure hblanks ⟨'b', taken, by simp, htail, fun hnil => absurd hnil hne⟩
    · exact .pure hblanks ⟨'b', [], rfl, .bare hc, fun _ => rfl⟩
  · cases hbare : bareEscape? c with
    | some primitive => exact .pure hblanks ⟨c, [], rfl, .bare hc, fun _ => hbare⟩
    | none => exact .failure

/-! ## Classes in brackets -/

/-- A character that stands for itself in brackets, or an escape. -/
inductive MemberText : List Char → Prop
  | char {c : Char} (hc : c ≠ '\\') : MemberText [c]
  | escape {c : Char} {tail : List Char} (htail : EscapeTail c tail) : MemberText ('\\' :: c :: tail)

theorem MemberText.ne_nil {text : List Char} (h : MemberText text) : text ≠ [] := by
  cases h <;> exact List.cons_ne_nil _ _

theorem takes_classPrimitive (hblanks : σ.ignoreBlanks = false) :
    Takes classPrimitive σ fun _ taken => MemberText taken := by
  rw [classPrimitive]
  refine .current_bind fun c after hrest => ?_
  split
  · rename_i hescape
    cases hescape
    refine (takes_escape hrest hblanks).mono ?_
    rintro _ _ ⟨c, tail, rfl, htail, -⟩
    exact .escape htail
  · rename_i hc
    exact .bind_one (.advance hrest hblanks) fun τ _ hblanks => .pure hblanks (.char hc)

theorem takes_classItem (primitive : Primitive) (hblanks : σ.ignoreBlanks = false) :
    Takes (classItem primitive) σ fun _ taken => taken = [] := by
  cases primitive with
  | literal | short | property => exact .pure hblanks rfl
  | dot | assertion => exact .failure

theorem Takes.skipBlanks_bind {next : Unit → Parser β} {post : β → List Char → Prop}
    (hblanks : σ.ignoreBlanks = false) (hnext : Takes (next ()) σ post) :
    Takes (skipBlanks >>= next) σ post :=
  hnext.of_run_eq (by rw [StateT.run_bind, skipBlanks_run_of_not hblanks]; rfl)

theorem Takes.peekPast_bind {next : Option Char → Parser β} {post : β → List Char → Prop}
    (hblanks : σ.ignoreBlanks = false) (hnext : Takes (next σ.rest.tail.head?) σ post) :
    Takes (peekPast >>= next) σ post :=
  hnext.of_run_eq (by rw [StateT.run_bind, peekPast_run, hblanks]; rfl)

theorem Takes.discard_current_bind {next : PUnit → Parser β} {post : β → List Char → Prop}
    (hnext : Takes (next ()) σ post) : Takes (discard current >>= next) σ post := by
  have hdiscard : (discard current : Parser PUnit) = current >>= fun _ => Pure.pure PUnit.unit := rfl
  rw [hdiscard, bind_assoc]
  exact .current_bind fun c after _ => hnext

/-- A member of a class, or a range of them; no range ends at the closing bracket. -/
theorem takes_classRange (hblanks : σ.ignoreBlanks = false) :
    Takes classRange σ fun _ taken => MemberText taken ∨ ∃ first last, taken = first ++ '-' :: last ∧
      MemberText first ∧ MemberText last ∧ last.head? ≠ some ']' := by
  rw [classRange]
  refine (takes_classPrimitive hblanks).bind fun primitive first τ _ hblanks hfirst => ?_
  refine .skipBlanks_bind hblanks (.current_bind fun c after hrest => ?_)
  refine .peekPast_bind hblanks ?_
  rw [hrest, List.tail_cons]
  split
  · refine (takes_classItem primitive hblanks).mono ?_
    rintro _ _ rfl
    exact Or.inl ((List.append_nil first).symm ▸ hfirst)
  · rename_i hrange
    obtain ⟨hdash, hclose, -⟩ := (not_or.mp hrange).imp id not_or.mp
    cases Decidable.of_not_not hdash
    refine .bind_one (.advanceAndSkip hrest hblanks) fun τ hafter hblanks => .discard_current_bind ?_
    obtain rfl := (List.cons.inj (hrest.symm.trans hafter)).2
    refine (takes_classPrimitive hblanks).bind fun other last υ hlast hblanks hmember => ?_
    have hhead : last.head? ≠ some ']' := by
      obtain ⟨d, more, rfl⟩ := List.exists_cons_of_ne_nil hmember.ne_nil
      rw [hlast] at hclose
      exact hclose
    have htaken : ∃ first' last', first ++ '-' :: (last ++ []) = first' ++ '-' :: last' ∧
        MemberText first' ∧ MemberText last' ∧ last'.head? ≠ some ']' :=
      ⟨first, last, by rw [List.append_nil], hfirst, hmember, hhead⟩
    split
    · split
      · exact .pure hblanks (Or.inr htaken)
      · exact .failure
    · exact .failure

theorem takes_leadingDashes (steps : Nat) (items : List ClassItem) (hblanks : σ.ignoreBlanks = false) :
    Takes (leadingDashes steps items) σ fun result taken => (∀ c ∈ taken, c = '-') ∧
      result.length = taken.length + items.length := by
  induction steps generalizing σ items with
  | zero => exact .pure hblanks ⟨List.forall_mem_nil _, (Nat.zero_add _).symm⟩
  | succ steps ih =>
    rw [leadingDashes]
    refine .current_bind fun c after hrest => ?_
    split
    · rename_i hdash
      refine .bind_one (.advanceAndSkip hrest hblanks) fun τ _ hblanks => (ih _ hblanks).mono ?_
      rintro result more ⟨hmore, hlength⟩
      refine ⟨List.forall_mem_cons.mpr ⟨hdash, hmore⟩, ?_⟩
      rw [hlength, List.length_cons, List.length_cons]
      omega
    · exact .pure hblanks ⟨List.forall_mem_nil _, (Nat.zero_add _).symm⟩

/-- The front of a class: a caret if there is one, then dashes or a closing bracket as the first member. -/
theorem takes_openClass {after : List Char} (hrest : σ.rest = '[' :: after) (hblanks : σ.ignoreBlanks = false) :
    Takes openClass σ fun _ taken => ∃ caret lead, taken = '[' :: (caret ++ lead) ∧
      (caret = ['^'] ∨ caret = [] ∧ after.head? ≠ some '^') ∧
      (lead = [']'] ∨ (∀ c ∈ lead, c = '-') ∧
        (lead = [] → ∀ left, after = caret ++ left → left.head? ≠ some ']')) := by
  rw [openClass]
  refine .bind_one (.advanceAndSkip hrest hblanks) fun τ hafter hblanks => ?_
  obtain rfl := (List.cons.inj (hrest.symm.trans hafter)).2
  refine .current_bind fun c more hrest => ?_
  dsimp only
  -- What follows the caret, or the bracket where there is none.
  have hlead : ∀ {caret : List Char} {υ : Scanner}, τ.rest = caret ++ υ.rest → υ.ignoreBlanks = false →
      ∀ negated : Bool, Takes (do
        let dashes ← leadingDashes (← steps) []
        if dashes.isEmpty && (← current) = ']' then
          advanceAndSkip
          discard current
          pure (negated, [.literal ⟨']', false⟩])
        else pure (negated, dashes)) υ fun _ taken => taken = [']'] ∨ (∀ c ∈ taken, c = '-') ∧
          (taken = [] → ∀ left, τ.rest = caret ++ left → left.head? ≠ some ']') := by
    intro caret υ hcaret hblanks negated
    refine .steps_bind fun steps => (takes_leadingDashes steps [] hblanks).bind ?_
    rintro dashes text υ htext hblanks ⟨hdashes, hlength⟩
    refine .current_bind fun d left hrest => ?_
    split
    · rename_i hclose
      obtain ⟨hnone, hd⟩ := Bool.and_eq_true_iff.mp hclose
      rw [List.isEmpty_iff] at hnone
      obtain rfl := of_decide_eq_true hd
      have hempty : text = [] := by
        rw [hnone] at hlength
        exact List.eq_nil_of_length_eq_zero (Nat.add_eq_zero_iff.mp hlength.symm).1
      subst hempty
      refine .bind_one (.advanceAndSkip hrest hblanks) fun τ _ hblanks => .discard_current_bind ?_
      exact .pure hblanks (Or.inl rfl)
    · rename_i hclose
      refine .pure hblanks ?_
      rw [List.append_nil]
      refine Or.inr ⟨hdashes, fun hempty left hleft => ?_⟩
      subst hempty
      have hnone : dashes = [] := List.eq_nil_of_length_eq_zero hlength
      rw [hcaret, htext, List.nil_append, hrest] at hleft
      rw [← List.append_cancel_left hleft, List.head?_cons]
      rintro heq
      exact hclose (by rw [hnone, Option.some.inj heq]; rfl)
  split
  · rename_i hnegated
    subst hnegated
    refine .bind_one (.advanceAndSkip hrest hblanks) fun υ hmore hblanks => ?_
    refine (hlead hmore hblanks _).mono fun _ taken htaken => ⟨['^'], taken, rfl, Or.inl rfl, htaken⟩
  · rename_i hnegated
    refine (hlead (List.nil_append _).symm hblanks _).mono fun _ taken htaken => ⟨[], taken, rfl, Or.inr ⟨rfl, ?_⟩, htaken⟩
    rw [hrest, List.head?_cons]
    exact fun heq => hnegated (Option.some.inj heq)

/-! ## Groups -/

/-- Whether a character stands between the question mark of a group and the end of its switches. -/
def isSwitch (c : Char) : Bool := (flag? c).isSome || c == '-'

/-- The letters of switches turned on, in a text that begins with switches. -/
def switchedOn (text : List Char) : List Char := text.takeWhile Char.isAlpha

theorem switchedOn_cons {c : Char} (hc : c.isAlpha = true) (text : List Char) :
    switchedOn (c :: text) = c :: switchedOn text := List.takeWhile_cons_of_pos hc

theorem isAlpha_of_flag? {c : Char} {flag : Flag} (h : flag? c = some flag) : c.isAlpha = true := by
  unfold flag? at h
  split at h <;> first | rfl | contradiction

/-- The switches turned on in a text that switches were read from. -/
theorem takes_flagRun (steps : Nat) (negated dangling : Bool) (change : FlagChange)
    (hblanks : σ.ignoreBlanks = false) :
    Takes (flagRun steps negated dangling change) σ fun result taken => (∀ c ∈ taken, isSwitch c = true) ∧
      ∀ flag, (flag, true) ∈ result → (flag, true) ∈ change ∨
        negated = false ∧ ∃ c ∈ switchedOn taken, flag? c = some flag := by
  induction steps generalizing σ negated dangling change with
  | zero => exact .failure
  | succ steps ih =>
    rw [flagRun]
    refine .current_bind fun c after hrest => ?_
    split
    · split
      · exact .failure
      · exact .pure hblanks ⟨List.forall_mem_nil _, fun _ hflag => Or.inl hflag⟩
    split
    · rename_i hdash
      cases negated with
      | true => exact .failure_bind
      | false =>
        refine .bind_one (.advance hrest hblanks) fun τ _ hblanks => (ih _ _ _ hblanks).mono ?_
        rintro result more ⟨hmore, hon⟩
        refine ⟨List.forall_mem_cons.mpr ⟨hdash ▸ rfl, hmore⟩, fun flag hflag => ?_⟩
        exact (hon flag hflag).imp id fun h => absurd h.1 (by decide)
    cases hletter : flag? c with
    | none => exact .failure
    | some flag =>
      dsimp only
      split
      · exact .failure_bind
      · refine .bind_one (.advance hrest hblanks) fun τ _ hblanks => (ih _ _ _ hblanks).mono ?_
        rintro result more ⟨hmore, hon⟩
        have hswitch : isSwitch c = true := by
          rw [isSwitch, hletter]
          rfl
        refine ⟨List.forall_mem_cons.mpr ⟨hswitch, hmore⟩, fun other hother => ?_⟩
        rw [switchedOn_cons (isAlpha_of_flag? hletter)]
        rcases hon other hother with hchange | ⟨hnegated, d, hd, hother⟩
        · rcases List.mem_cons.mp hchange with heq | hchange
          · obtain ⟨rfl, hnegated⟩ := Prod.mk.inj heq
            exact Or.inr ⟨by simpa using hnegated.symm, c, List.mem_cons_self, hletter⟩
          · exact Or.inl hchange
        · exact Or.inr ⟨hnegated, d, List.mem_cons_of_mem _ hd, hother⟩

/-- Switches end before a colon or a closing parenthesis. -/
theorem rest_of_flagRun {steps : Nat} {negated dangling : Bool} {change result : FlagChange}
    (h : (flagRun steps negated dangling change).run σ = some (result, τ)) :
    ∃ c after, τ.rest = c :: after ∧ (c = ':' ∨ c = ')') := by
  induction steps generalizing σ negated dangling change with
  | zero => exact absurd h (Option.some_ne_none _).symm
  | succ steps ih =>
    rw [flagRun, bind_run_some] at h
    obtain ⟨c, υ, hcurrent, h⟩ := h
    obtain ⟨rfl, after, hrest⟩ := rest_of_current_run hcurrent
    split at h
    · rename_i hend
      split at h
      · exact absurd h failure_run_ne_some
      · obtain ⟨rfl, rfl⟩ := pure_run_some.mp h
        exact ⟨c, after, hrest, by simpa using hend⟩
    split at h
    · cases negated with
      | true =>
        exact absurd h failure_bind_run_ne_some
      | false =>
        obtain ⟨_, υ, -, h⟩ := bind_run_some.mp h
        exact ih h
    split at h
    · exact absurd h failure_run_ne_some
    · dsimp only at h
      split at h
      · exact absurd h failure_bind_run_ne_some
      · obtain ⟨_, υ, -, h⟩ := bind_run_some.mp h
        exact ih h

/-- What belongs to an opening parenthesis.  Switches that are turned on are written before any dash. -/
inductive GroupHeader : Opening → List Char → Prop
  | plain : GroupHeader (.group []) []
  | named {sign name : List Char} (hsign : sign = ['?', '<'] ∨ sign = ['?', 'P', '<']) (hangle : '>' ∉ name)
    (hname : isGroupName name = true) : GroupHeader (.group []) (sign ++ name ++ ['>'])
  | flags {letters : List Char} {change : FlagChange} (hletters : ∀ c ∈ letters, isSwitch c = true)
    (hon : ∀ flag, (flag, true) ∈ change → ∃ c ∈ switchedOn letters, flag? c = some flag) :
    GroupHeader (.flags change) ('?' :: letters ++ [')'])
  | switched {letters : List Char} {change : FlagChange} (hletters : ∀ c ∈ letters, isSwitch c = true)
    (hon : ∀ flag, (flag, true) ∈ change → ∃ c ∈ switchedOn letters, flag? c = some flag) :
    GroupHeader (.group change) ('?' :: letters ++ [':'])

/-- The switches that an opening parenthesis sets. -/
def Opening.change : Opening → FlagChange
  | .flags change => change
  | .group change => change

theorem takes_switches (hblanks : σ.ignoreBlanks = false) :
    Takes switches σ fun opened taken => GroupHeader opened ('?' :: taken) := by
  rw [switches]
  refine .steps_bind fun steps opened τ hrun => ?_
  obtain ⟨change, υ, hflags, hrun⟩ := bind_run_some.mp hrun
  obtain ⟨letters, hfront, hblanks, hletters, hon⟩ := takes_flagRun steps false false [] hblanks change υ hflags
  obtain ⟨c, after, hrest, hc⟩ := rest_of_flagRun hflags
  have hon : ∀ flag, (flag, true) ∈ change.reverse → ∃ c ∈ switchedOn letters, flag? c = some flag :=
    fun flag hflag => (hon flag (List.mem_reverse.mp hflag)).elim (fun h => absurd h List.not_mem_nil) And.right
  obtain ⟨d, υ', hcurrent, hrun⟩ := bind_run_some.mp hrun
  obtain ⟨rfl, _, hrest'⟩ := rest_of_current_run hcurrent
  cases hrest'.symm.trans hrest
  obtain ⟨_, υ', hadvance, hrun⟩ := bind_run_some.mp hrun
  obtain ⟨-, rfl⟩ := Prod.mk.inj (Option.some.inj ((advance_run_of hrest).symm.trans hadvance))
  rcases hc with rfl | rfl
  · obtain ⟨rfl, rfl⟩ := pure_run_some.mp hrun
    exact ⟨letters ++ [':'], by rw [hfront, hrest, List.append_assoc]; rfl, hblanks, .switched hletters hon⟩
  · simp only [if_true] at hrun
    split at hrun
    · exact absurd hrun failure_run_ne_some
    · obtain ⟨rfl, rfl⟩ := pure_run_some.mp hrun
      exact ⟨letters ++ [')'], by rw [hfront, hrest, List.append_assoc]; rfl, hblanks, .flags hletters hon⟩

theorem takes_groupName (hblanks : σ.ignoreBlanks = false) :
    Takes groupName σ fun _ taken => ∃ name, taken = name ++ ['>'] ∧ '>' ∉ name ∧ isGroupName name = true := by
  intro _ τ hrun
  by_cases hangle : '>' ∈ σ.rest
  · obtain ⟨name, after, hrest, hname⟩ := List.eq_append_cons_of_mem hangle
    rw [groupName_run hname hrest] at hrun
    split at hrun
    · rename_i hallowed
      obtain ⟨-, rfl⟩ := Prod.mk.inj (Option.some.inj hrun)
      refine ⟨name ++ ['>'], by rw [hrest, List.append_assoc]; rfl, hblanks, name, rfl, hname, ?_⟩
      exact (Bool.and_eq_true _ _ ▸ hallowed).1
    · exact absurd hrun (Option.some_ne_none _).symm
  · rw [groupName_run_of_not_mem hangle] at hrun
    exact absurd hrun (Option.some_ne_none _).symm

theorem takes_take? (text : List Char) (hblanks : σ.ignoreBlanks = false) :
    Takes (take? text) σ fun found taken => taken = if found then text else [] := by
  intro found τ hrun
  rw [take?, bind_run_some] at hrun
  obtain ⟨_, _, hrest, hrun⟩ := hrun
  obtain ⟨rfl, rfl⟩ := Prod.mk.inj (Option.some.inj hrest)
  split at hrun
  · rename_i h
    obtain ⟨after, hafter⟩ := List.isPrefixOf_iff_prefix.mp h
    obtain ⟨_, hset, rfl⟩ := map_run_some.mp hrun
    obtain ⟨-, rfl⟩ := Prod.mk.inj (Option.some.inj hset)
    refine ⟨text, ?_, hblanks, rfl⟩
    rw [← hafter]
    simp
  · obtain ⟨rfl, rfl⟩ := pure_run_some.mp hrun
    exact ⟨[], rfl, hblanks, rfl⟩

theorem takes_refuse (signs : List (List Char)) (hblanks : σ.ignoreBlanks = false) :
    Takes (forIn signs PUnit.unit fun sign _ => do
      if ← take? sign then failure
      pure (.yield PUnit.unit) : Parser PUnit) σ fun _ taken => taken = [] := by
  induction signs generalizing σ with
  | nil => exact .pure hblanks rfl
  | cons sign signs ih =>
    rw [List.forIn_cons, bind_assoc]
    refine (takes_take? sign hblanks).bind fun found taken τ _ hblanks htaken => ?_
    cases found with
    | true =>
      simp only [if_true, bind_assoc]
      exact .failure_bind
    | false =>
      cases htaken
      simp only [Bool.false_eq_true, if_false, pure_bind]
      exact ih hblanks

theorem takes_groupOpening (named : Bool) (hblanks : σ.ignoreBlanks = false) :
    Takes (groupOpening named) σ fun opened taken => if named then
      ∃ name, taken = name ++ ['>'] ∧ '>' ∉ name ∧ isGroupName name = true ∧ opened = .group []
      else GroupHeader opened taken := by
  cases named with
  | true =>
    refine (takes_groupName hblanks).bind ?_
    rintro _ _ τ - hblanks ⟨name, rfl, hangle, hname⟩
    exact .pure hblanks ⟨name, List.append_nil _, hangle, hname, rfl⟩
  | false =>
    refine (takes_take? ['?'] hblanks).bind fun found taken τ _ hblanks htaken => ?_
    subst htaken
    cases found with
    | true => exact takes_switches hblanks
    | false => exact .pure hblanks .plain

/-- An opening parenthesis is taken with its header. -/
theorem takes_opening {after : List Char} (hrest : σ.rest = '(' :: after) (hblanks : σ.ignoreBlanks = false) :
    Takes opening σ fun opened taken => ∃ header, taken = '(' :: header ∧ GroupHeader opened header := by
  rw [opening_eq]
  refine .bind_one (.advanceAndSkip hrest hblanks) fun τ _ hblanks => ?_
  refine (takes_refuse _ hblanks).bind fun _ taken τ _ hblanks htaken => ?_
  subst htaken
  refine (takes_take? ['?', 'P', '<'] hblanks).bind fun found taken τ _ hblanks htaken => ?_
  subst htaken
  cases found with
  | true =>
    refine (takes_groupOpening true hblanks).mono ?_
    rintro opened taken ⟨name, rfl, hangle, hname, rfl⟩
    exact ⟨_, rfl, .named (Or.inr rfl) hangle hname⟩
  | false =>
    refine (takes_take? ['?', '<'] hblanks).bind fun named taken τ _ hblanks htaken => ?_
    subst htaken
    refine (takes_groupOpening named hblanks).mono fun opened taken h => ?_
    cases named with
    | true =>
      obtain ⟨name, rfl, hangle, hname, rfl⟩ := h
      exact ⟨_, rfl, .named (Or.inl rfl) hangle hname⟩
    | false => exact ⟨_, rfl, h⟩

end EditorBridge.Regex.Parser
