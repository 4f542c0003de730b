import EditorBridge.Proofs.Regex.Continuation
/-!
Classes, groups and expressions that go on.  Every reader of a pattern carries its results over to longer
texts, up to the reader of a whole expression (`Parser.steady_branches`).
-/

set_option autoImplicit false

namespace EditorBridge.Regex.Parser

variable {β : Type} {σ τ : Scanner}

/-! ## Classes in brackets -/

theorem steady_classPrimitive : Steady classPrimitive σ := by
  rw [classPrimitive]
  refine .current_bind fun c after hrest => ?_
  split
  · exact steady_escape hrest
  · exact (steady_advance hrest).bind fun _ _ _ => .pure _

theorem steady_classItem (primitive : Primitive) : Steady (classItem primitive) σ := by
  cases primitive
  all_goals first | exact .pure _ | exact .failure

/-- A tail does not make a dash literal, nor the end of a range. -/
theorem beyondDash_append_iff {c : Char} (hc : c = ']' ∨ c = '-') (ignoreBlanks : Bool) (after : List Char)
    {tail : List Char} (htail : Closing tail) :
    beyondDash ignoreBlanks (after ++ tail) = some c ↔ beyondDash ignoreBlanks after = some c := by
  have hblank : Character.isWhitespace c = false := by rcases hc with rfl | rfl <;> rfl
  have hclosing : ')' ≠ c := by rcases hc with rfl | rfl <;> decide
  have hsign : '#' ≠ c := by rcases hc with rfl | rfl <;> decide
  have hdrop := fun text => dropWhile_append_closing (p := Character.isWhitespace) rfl text htail
  have hhead : after.head? = some c → (after.dropWhile Character.isWhitespace).head? = some c := by
    intro hafter
    obtain ⟨after, rfl⟩ := List.head?_eq_some_iff.mp hafter
    rw [List.dropWhile_cons, hblank]
    rfl
  obtain ⟨behind, rfl⟩ := htail.head
  cases ignoreBlanks with
  | false => cases after <;> simp [beyondDash, hclosing]
  | true =>
    simp only [beyondDash, if_true, hdrop]
    cases hfirst : after.dropWhile Character.isWhitespace with
    | nil =>
      rw [hfirst] at hhead
      have hnone : after.head? ≠ some c := fun h => absurd (hhead h) (by simp)
      simp [hclosing, hnone]
    | cons d comment =>
      rw [hfirst] at hhead
      by_cases hd : d = '#'
      · subst hd
        have hnone : after.head? ≠ some c := fun h => absurd (hhead h) (by simp [hsign])
        simp only [List.cons_append, List.head?_cons, List.tail_cons, if_true, hdrop]
        cases comment.dropWhile Character.isWhitespace <;> simp [hclosing, hnone]
      · simp [hd]

/-- What is read after a look past a dash, where only the signs that make the dash literal matter. -/
theorem Steady.peekPast_bind {c : Char} {after : List Char} (hrest : σ.rest = c :: after)
    {next : Option Char → Parser β} (hnext : ∀ past, Steady (next past) σ)
    (hsigns : ∀ past past' : Option Char,
      (∀ d, d = ']' ∨ d = '-' → (past = some d ↔ past' = some d)) → next past = next past') :
    Steady (peekPast >>= next) σ := by
  have hlook : ∀ σ, (peekPast >>= next).run σ =
      (next (beyondDash σ.ignoreBlanks σ.rest.tail)).run σ := by
    intro σ
    rw [StateT.run_bind, peekPast_run]
    rfl
  have hsteady : Carries _ _ { σ with rest := σ.rest } := hnext (beyondDash σ.ignoreBlanks σ.rest.tail)
  refine Carries.of_jump (List.suffix_refl _) (hlook σ) (fun _ => hlook σ) (fun tail htail _ => ?_) hsteady
  rw [hlook]
  refine congrArg (StateT.run · _) (hsigns _ _ fun d hd => ?_)
  rw [Scanner.followed, hrest, List.cons_append, List.tail_cons, List.tail_cons]
  exact beyondDash_append_iff hd _ after htail

theorem steady_classRange : Steady classRange σ := by
  rw [classRange]
  refine steady_classPrimitive.bind fun first _ _ => steady_skipBlanks.bind fun _ σ _ => ?_
  refine .current_bind fun c after hrest => .peekPast_bind hrest (fun past => ?_) fun past past' hpast => ?_
  · split
    · exact steady_classItem _
    · refine (steady_advanceAndSkip hrest).bind fun _ σ _ => ?_
      refine (steady_current.map _).bind fun _ σ _ => steady_classPrimitive.bind fun last _ _ => ?_
      split
      · split
        · exact .pure _
        · exact .failure
      · exact .failure
  · simp only [hpast _ (Or.inl rfl), hpast _ (Or.inr rfl)]

theorem carries_leadingDashes (steps : Nat) (items : List ClassItem) (hsteps : σ.rest.length < steps) :
    Carries (leadingDashes steps items) (fun room => leadingDashes (steps + room) items) σ := by
  induction steps generalizing σ items with
  | zero => exact absurd hsteps (Nat.not_lt_zero _)
  | succ steps ih =>
    simp only [Nat.add_right_comm steps 1, leadingDashes]
    refine Carries.bind steady_current fun c τ hrun => ?_
    obtain ⟨rfl, after, hrest⟩ := rest_of_current_run hrun
    split
    · refine Carries.bind (steady_advanceAndSkip hrest) fun _ υ hrun => ih _ ?_
      have hless := length_lt_of_advanceAndSkip_run hrest hrun
      omega
    · exact Steady.pure _

theorem steady_openClass {c : Char} {after : List Char} (hrest : σ.rest = c :: after) :
    Steady openClass σ := by
  have hmembers : ∀ (negated : Bool) (σ : Scanner), Steady (do
      let dashes ← leadingDashes (← steps) []
      if dashes.isEmpty && (← current) = ']' then
        advanceAndSkip
        discard current
        pure (negated, [.literal ⟨']', false⟩])
      else pure (negated, dashes) : Parser (Bool × List ClassItem)) σ := by
    intro negated σ
    refine .steps_bind (Carries.bind (carries_leadingDashes _ _ (Nat.lt_succ_self _)) fun dashes σ _ => ?_)
    refine Steady.current_bind fun c after hrest => ?_
    split
    · refine (steady_advanceAndSkip hrest).bind fun _ _ _ => ?_
      exact (steady_current.map _).bind fun _ _ _ => .pure _
    · exact .pure _
  rw [openClass]
  refine (steady_advanceAndSkip hrest).bind fun _ σ _ => .current_bind fun c after hrest => ?_
  dsimp only
  split
  · exact (steady_advanceAndSkip hrest).bind fun _ _ _ => hmembers _ _
  · exact hmembers _ _

/-- The name of a class of characters holds no parenthesis. -/
theorem asciiClass?_eq_none {name : List Char} (hname : ')' ∈ name) :
    asciiClass? (String.ofList name) = none := by
  have hother : ∀ word : String, ')' ∉ word.toList → String.ofList name ≠ word := by
    intro word hword heq
    rw [← heq, String.toList_ofList] at hword
    exact hword hname
  unfold asciiClass?
  split <;> first | rfl | exact absurd ‹String.ofList name = _› (hother _ (by decide))

theorem namedClass?_append (negated : Bool) (inner : List Char) {tail : List Char} (htail : Closing tail) :
    namedClass? negated (inner ++ tail) =
      (namedClass? negated inner).map fun (item, after) => (item, after ++ tail) := by
  obtain ⟨behind, rfl⟩ := htail.head
  by_cases hcolon : ':' ∈ inner
  · obtain ⟨name, more, rfl, hname⟩ := List.eq_append_cons_of_mem hcolon
    rw [List.append_assoc, List.cons_append, namedClass?_colon _ hname, namedClass?_colon _ hname]
    rcases more with _ | ⟨c, after⟩
    · rfl
    · by_cases hc : c = ']'
      · subst hc
        cases asciiClass? (String.ofList name) <;> rfl
      · simp [hc]
  · -- A name that goes on in the tail is no name of a class.
    have hall : ∀ c ∈ inner, (c != ':') = true := fun c hc => bne_iff_ne.mpr fun heq => hcolon (heq ▸ hc)
    have hshort : inner.dropWhile (· != ':') = [] := by
      have hdrop : (inner ++ []).dropWhile (· != ':') = [].dropWhile (· != ':') :=
        List.dropWhile_append_of_pos hall
      rwa [List.append_nil] at hdrop
    have hname : ')' ∈ (inner ++ ')' :: behind).takeWhile (· != ':') := by
      rw [List.takeWhile_append_of_pos hall, List.takeWhile_cons_of_pos rfl]
      exact List.mem_append_right _ List.mem_cons_self
    rw [namedClass?, namedClass?, hshort, asciiClass?_eq_none hname]
    split <;> rfl

/-- What is behind the sign of a class of characters with a name. -/
theorem asciiItem?_cases (text : List Char) :
    (∃ negated inner, inner <:+ text ∧ asciiItem? text = namedClass? negated inner ∧ ∀ tail, Closing tail →
      asciiItem? (text ++ tail) = namedClass? negated (inner ++ tail)) ∨
    asciiItem? text = none ∧ ∀ tail, Closing tail → asciiItem? (text ++ tail) = none := by
  have hother : ∀ c d after, ¬ (c = '[' ∧ d = ':') → asciiItem? (c :: d :: after) = none := by
    intro c d after hstart
    by_cases hc : c = '['
    · have hd : d ≠ ':' := fun hd => hstart ⟨hc, hd⟩
      simp [asciiItem?, hc, hd]
    · simp [asciiItem?, hc]
  rcases text with _ | ⟨c, _ | ⟨d, inner⟩⟩
  · refine Or.inr ⟨rfl, fun tail htail => ?_⟩
    obtain ⟨behind, rfl⟩ := htail.head
    rfl
  · refine Or.inr ⟨by simp [asciiItem?], fun tail htail => ?_⟩
    obtain ⟨behind, rfl⟩ := htail.head
    exact hother _ _ _ fun h => absurd h.2 (by decide)
  · by_cases hstart : c = '[' ∧ d = ':'
    · obtain ⟨rfl, rfl⟩ := hstart
      by_cases hnegated : inner.head? = some '^'
      · obtain ⟨inner, rfl⟩ := List.head?_eq_some_iff.mp hnegated
        exact Or.inl ⟨true, inner, List.suffix_append [_, _, _] _, rfl, fun _ _ => rfl⟩
      · refine Or.inl ⟨false, inner, List.suffix_append [_, _] _, asciiItem?_named hnegated, ?_⟩
        intro tail htail
        obtain ⟨behind, rfl⟩ := htail.head
        refine asciiItem?_named ?_
        cases inner with
        | nil => simp
        | cons c inner => exact hnegated
    · exact Or.inr ⟨hother _ _ _ hstart, fun tail _ => hother _ _ _ hstart⟩

theorem asciiItem?_append (text : List Char) {tail : List Char} (htail : Closing tail) :
    asciiItem? (text ++ tail) = (asciiItem? text).map fun (item, after) => (item, after ++ tail) := by
  rcases asciiItem?_cases text with ⟨negated, inner, -, hshort, hlong⟩ | ⟨hshort, hlong⟩
  · rw [hshort, hlong tail htail, namedClass?_append negated inner htail]
  · rw [hshort, hlong tail htail]
    rfl

theorem asciiItem?_suffix {text after : List Char} {item : ClassItem}
    (h : asciiItem? text = some (item, after)) : after <:+ text := by
  rcases asciiItem?_cases text with ⟨negated, inner, hsuffix, hshort, -⟩ | ⟨hshort, -⟩
  · rw [hshort] at h
    exact (namedClass?_suffix h).trans hsuffix
  · rw [hshort] at h
    exact absurd h (Option.some_ne_none _).symm

theorem setOperator?_append (text : List Char) {tail : List Char} (htail : Closing tail) :
    setOperator? (text ++ tail) =
      (setOperator? text).map fun (operator, after) => (operator, after ++ tail) := by
  obtain ⟨behind, rfl⟩ := htail.head
  rcases text with _ | ⟨c, _ | ⟨d, after⟩⟩
  · rfl
  · simp [setOperator?]
  · by_cases hsame : c = d ∧ (c = '&' ∨ c = '-' ∨ c = '~')
    · obtain ⟨rfl, rfl | rfl | rfl⟩ := hsame <;> rfl
    · have hnone : ∀ after, setOperator? (c :: d :: after) = none := by
        intro after
        unfold setOperator?
        split <;> simp_all
      rw [List.cons_append, List.cons_append, hnone, hnone]
      rfl

theorem steady_classPart {inner : Parser ClassItem} (state : ClassState)
    (hinner : ∀ after, σ.rest = '[' :: after → Steady inner σ) : Steady (classPart inner state) σ := by
  have hitem' : ∀ tail, Closing tail → asciiItem? (σ.followed tail).rest = _ := fun tail htail =>
    asciiItem?_append σ.rest htail
  have hoperator' : ∀ tail, Closing tail → setOperator? (σ.followed tail).rest = _ := fun tail htail =>
    setOperator?_append σ.rest htail
  cases hitem : asciiItem? σ.rest with
  | some found =>
    obtain ⟨item, after⟩ := found
    rw [hitem] at hitem'
    exact .of_run (classPart_run_item hitem) (asciiItem?_suffix hitem) fun tail htail =>
      classPart_run_item (hitem' tail htail)
  | none =>
    rw [hitem] at hitem'
    cases hoperator : setOperator? σ.rest with
    | some found =>
      obtain ⟨operator, after⟩ := found
      rw [hoperator] at hoperator'
      exact .of_run (classPart_run_operator hitem hoperator) (setOperator?_suffix hoperator)
        fun tail htail => classPart_run_operator (hitem' tail htail) (hoperator' tail htail)
    | none =>
      rw [hoperator] at hoperator'
      cases hrest : σ.rest with
      | nil =>
        refine .of_none ?_
        rw [classPart_run, hrest]
        rfl
      | cons c after =>
        have hrest' : ∀ tail, (σ.followed tail).rest = c :: (after ++ tail) := fun tail => by
          rw [Scanner.followed, hrest, List.cons_append]
        by_cases hclose : c = ']'
        · subst hclose
          refine .of_run (classPart_run_close hrest) ?_ fun tail _ => classPart_run_close (hrest' tail)
          rw [hrest]
          exact List.suffix_cons _ _
        by_cases hopen : c = '['
        · subst hopen
          have hmember := (hinner after hrest).bind fun item _ _ => Steady.pure (some (state.add item))
          exact hmember.of_run_eq (classPart_run_open hitem hrest) fun tail htail =>
            classPart_run_open (hitem' tail htail) (hrest' tail)
        · have hmember : Steady (classRange >>= _) σ :=
            steady_classRange.bind fun item _ _ => Steady.pure (some (state.add item))
          exact hmember.of_run_eq (classPart_run_range hoperator hrest hopen hclose) fun tail htail =>
            classPart_run_range (hoperator' tail htail) (hrest' tail) hopen hclose

theorem carries_classContent {inner : Parser ClassItem}
    (hinner : ∀ (σ : Scanner) after, σ.rest = '[' :: after → Steady inner σ) (steps : Nat)
    (state : ClassState) :
    Carries (classContent inner steps state) (fun room => classContent inner (steps + room) state) σ := by
  induction steps generalizing σ state with
  | zero => exact .failure _
  | succ steps ih =>
    simp only [Nat.add_right_comm steps 1, classContent_succ]
    refine Carries.bind steady_skipBlanks fun _ σ _ => ?_
    refine Carries.bind (steady_classPart state (hinner σ)) fun part _ _ => ?_
    cases part with
    | none => exact Steady.pure _
    | some state => exact ih state

theorem steady_bracketed (nesting : Nat) {c : Char} {after : List Char} (hrest : σ.rest = c :: after) :
    Steady (bracketed nesting) σ := by
  induction nesting generalizing σ c after with
  | zero => exact .failure
  | succ nesting ih =>
    rw [bracketed]
    refine (steady_openClass hrest).bind fun opened σ _ => .steps_bind ?_
    refine Carries.bind (carries_classContent (fun σ after hrest => ?_) _ _) fun _ _ _ => Steady.pure _
    exact (ih hrest).bind fun _ _ _ => .pure _

/-! ## Repetition -/

theorem steady_repeatable (parts : List Ast) : Steady (repeatable parts) σ := by
  unfold repeatable
  split
  all_goals first | exact .pure _ | exact .failure

theorem steady_greediness : Steady greediness σ := by
  rw [greediness]
  refine Carries.peek_bind (fun c after hrest => ?_) ⟨true, rfl, fun _ => ⟨rfl, rfl⟩⟩
  split
  · exact Steady.bind (steady_advance hrest) fun _ _ _ => .pure _
  · exact Steady.pure _

theorem steady_simpleRepetition (least : Nat) (most : Option Nat) (parts : List Ast) {c : Char}
    {after : List Char} (hrest : σ.rest = c :: after) :
    Steady (simpleRepetition least most parts) σ := by
  rw [simpleRepetition]
  refine (steady_repeatable parts).bind fun found σ' hrun => ?_
  obtain ⟨rfl, -⟩ := repeatable_run hrun
  exact (steady_advance hrest).bind fun _ _ _ => steady_greediness.bind fun _ _ _ => .pure _

theorem steady_upperBound (least : Nat) : Steady (upperBound least) σ := by
  rw [upperBound]
  refine .current_bind fun c after hrest => ?_
  split
  · refine (steady_advanceAndSkip hrest).bind fun _ _ _ => .current_bind fun c after _ => ?_
    split
    · exact .pure _
    · exact steady_decimal.map _
  · exact .pure _

theorem steady_repetitionEnd (least : Nat) (most : Option Nat) (ast : Ast) :
    Steady (repetitionEnd least most ast) σ := by
  rw [repetitionEnd]
  refine .current_bind fun c after hrest => ?_
  dsimp only
  split
  · exact .failure_bind
  · refine (steady_advanceAndSkip hrest).bind fun _ _ _ => steady_greediness.bind fun greedy _ _ => ?_
    split
    · exact .failure_bind
    · exact .pure _

theorem steady_countedRepetition (parts : List Ast) {c : Char} {after : List Char}
    (hrest : σ.rest = c :: after) : Steady (countedRepetition parts) σ := by
  rw [countedRepetition_eq]
  refine (steady_repeatable parts).bind fun found σ' hrun => ?_
  obtain ⟨rfl, -⟩ := repeatable_run hrun
  refine (steady_advanceAndSkip hrest).bind fun _ _ _ => steady_decimal.bind fun least _ _ => ?_
  refine (steady_upperBound least).bind fun most _ _ => ?_
  exact (steady_repetitionEnd _ _ _).bind fun _ _ _ => .pure _

/-! ## Groups -/

theorem carries_flagRun (steps : Nat) (negated dangling : Bool) (change : FlagChange) :
    Carries (flagRun steps negated dangling change)
      (fun room => flagRun (steps + room) negated dangling change) σ := by
  induction steps generalizing σ negated dangling change with
  | zero => exact .failure _
  | succ steps ih =>
    simp only [Nat.add_right_comm steps 1, flagRun]
    refine Carries.bind steady_current fun c τ hrun => ?_
    obtain ⟨rfl, after, hrest⟩ := rest_of_current_run hrun
    split
    · cases dangling with
      | true => exact .failure _
      | false => exact Steady.pure _
    split
    · cases negated with
      | true => exact .of_none rfl
      | false => exact Carries.bind (steady_advance hrest) fun _ _ _ => ih _ _ _
    cases flag? c with
    | none => exact .failure _
    | some flag =>
      dsimp only
      split
      · exact .of_none rfl
      · exact Carries.bind (steady_advance hrest) fun _ _ _ => ih _ _ _

theorem steady_groupName : Steady groupName σ := by
  by_cases hangle : '>' ∈ σ.rest
  · obtain ⟨name, after, hrest, hname⟩ := List.eq_append_cons_of_mem hangle
    have hrun := groupName_run hname hrest
    by_cases hallowed : (isGroupName name && !σ.names.contains name) = true
    · rw [if_pos hallowed] at hrun
      refine .of_run hrun ?_ fun tail _ => ?_
      · rw [hrest]
        exact (List.suffix_cons _ _).trans (List.suffix_append _ _)
      · have hlonger : (σ.followed tail).rest = name ++ '>' :: (after ++ tail) := by
          rw [Scanner.followed, hrest, List.append_assoc]
          rfl
        rw [groupName_run hname hlonger, Scanner.followed, if_pos hallowed]
        rfl
    · rw [if_neg hallowed] at hrun
      exact .of_none hrun
  · exact .of_none (groupName_run_of_not_mem hangle)

theorem steady_applyBlanks (change : FlagChange) : Steady (applyBlanks change) σ := by
  rw [applyBlanks]
  split
  · exact .of_run rfl (List.suffix_refl _) fun _ _ => rfl
  · exact .pure _

theorem steady_refuse {signs : List (List Char)} (hsigns : ∀ sign ∈ signs, ')' ∉ sign) :
    Steady (forIn signs PUnit.unit fun sign _ => do
      if ← take? sign then failure
      pure (.yield PUnit.unit) : Parser PUnit) σ := by
  induction signs generalizing σ with
  | nil => exact .pure _
  | cons sign signs ih =>
    rw [List.forIn_cons, bind_assoc]
    refine (steady_take? (hsigns sign List.mem_cons_self)).bind fun taken _ _ => ?_
    split
    · rw [bind_assoc]
      exact .failure_bind
    · rw [pure_bind]
      exact ih fun sign hsign => hsigns sign (List.mem_cons_of_mem _ hsign)

theorem steady_switches : Steady switches σ := by
  rw [switches]
  refine .steps_bind (Carries.bind (carries_flagRun _ _ _ _) fun change _ _ => ?_)
  refine Steady.current_bind fun c after hrest => (steady_advance hrest).bind fun _ _ _ => ?_
  split
  · split
    · exact .failure
    · exact .pure _
  · exact .pure _

theorem steady_groupOpening (named : Bool) : Steady (groupOpening named) σ := by
  cases named with
  | true => exact steady_groupName.bind fun _ _ _ => .pure _
  | false =>
    refine (steady_take? (by decide)).bind fun taken _ _ => ?_
    cases taken with
    | true => exact steady_switches
    | false => exact .pure _

theorem steady_opening {c : Char} {after : List Char} (hrest : σ.rest = c :: after) : Steady opening σ := by
  rw [opening_eq]
  refine (steady_advanceAndSkip hrest).bind fun _ σ _ => ?_
  refine (steady_refuse (by decide)).bind fun _ σ _ => ?_
  refine (steady_take? (by decide)).bind fun named _ _ => ?_
  split
  · exact steady_groupOpening true
  · exact (steady_take? (by decide)).bind fun named _ _ => steady_groupOpening named

/-! ## Expressions -/

theorem steady_groupWithin (outer : Bool) {inner : Parser Ast} (hinner : ∀ σ, Steady inner σ) {c : Char}
    {after : List Char} (hrest : σ.rest = c :: after) : Steady (groupWithin outer inner) σ := by
  rw [groupWithin]
  refine (steady_opening hrest).bind fun opened _ _ => ?_
  cases opened with
  | flags change => exact (steady_applyBlanks change).bind fun _ _ _ => .pure _
  | group change =>
    refine (steady_applyBlanks change).bind fun _ _ _ => (hinner _).bind fun body σ _ => ?_
    refine .current_bind fun c after hrest => ?_
    dsimp only
    split
    · exact .failure_bind
    · refine Steady.bind (.of_run rfl (List.suffix_refl _) fun _ _ => rfl) fun _ τ hrun => ?_
      obtain ⟨-, rfl⟩ := Prod.mk.inj (Option.some.inj hrun)
      have hadvance : Steady advance { σ with ignoreBlanks := outer } := steady_advance hrest
      exact hadvance.bind fun _ _ _ => .pure _

theorem steady_branchPart {inner : Parser Ast} (hinner : ∀ σ, Steady inner σ) (state : BranchState) :
    Steady (branchPart inner state) σ := by
  rw [branchPart]
  refine Carries.peek_bind (fun c after hrest => ?_) ⟨none, rfl, fun _ => ⟨rfl, rfl⟩⟩
  cases partFront c with
  | closed => exact Steady.pure _
  | next => exact Steady.bind (steady_advance hrest) fun _ _ _ => .pure _
  | group =>
    have hgroup : Steady (group inner) σ :=
      (steady_groupWithin σ.ignoreBlanks hinner hrest).of_run_eq rfl fun _ _ => rfl
    exact hgroup.bind fun _ _ _ => .pure _
  | bracketed => exact Steady.bind (steady_bracketed _ hrest) fun _ _ _ => .pure _
  | counted => exact Steady.bind (steady_countedRepetition _ hrest) fun _ _ _ => .pure _
  | simple hbounds =>
    rw [branchPartOf_simple hbounds]
    exact Steady.bind (steady_simpleRepetition _ _ _ hrest) fun _ _ _ => .pure _
  | primitive hc =>
    rw [branchPartOf_primitive hc]
    exact Steady.bind steady_primitive fun _ _ _ => .pure _

theorem carries_branchesRest {inner : Parser Ast} (hinner : ∀ σ, Steady inner σ) (steps : Nat)
    (before parts : List Ast) : Carries (branchesRest inner steps before parts)
      (fun room => branchesRest inner (steps + room) before parts) σ := by
  induction steps generalizing σ before parts with
  | zero => exact .failure _
  | succ steps ih =>
    simp only [Nat.add_right_comm steps 1, branchesRest_succ]
    refine Carries.bind steady_skipBlanks fun _ σ _ => ?_
    refine Carries.bind (steady_branchPart hinner _) fun state _ _ => ?_
    cases state with
    | none => exact Steady.pure _
    | some state => exact ih state.before state.parts

/-- Reading an expression carries over to longer texts, whatever depth is allowed. -/
theorem steady_branches (nesting : Nat) (σ : Scanner) : Steady (branches nesting) σ := by
  induction nesting generalizing σ with
  | zero => exact .failure
  | succ nesting ih => exact .steps_bind (carries_branchesRest ih _ _ _)

end EditorBridge.Regex.Parser
