import EditorBridge.Proofs.Regex.Literals
/-!
Patterns part by part.  The readers of a class and of an expression go from one part to the next, and one
reader says what a part can be (`Parser.classContent_succ`, `Parser.branchesRest_succ`); where a reader decides
by what is left of the pattern, its result is given for each case.
-/

set_option autoImplicit false

namespace EditorBridge.Regex.Parser

variable {σ τ : Scanner}

/-! ## Characters -/

variable {α β : Type}

/-- Readers one after the other. -/
theorem bind_run_some {first : Parser α} {next : α → Parser β} {b : β} :
    (first >>= next).run σ = some (b, τ) ↔ ∃ a υ, first.run σ = some (a, υ) ∧ (next a).run υ = some (b, τ) := by
  rw [StateT.run_bind]
  constructor
  · intro h
    obtain ⟨⟨a, υ⟩, hfirst, hnext⟩ := Option.bind_eq_some_iff.mp h
    exact ⟨a, υ, hfirst, hnext⟩
  · rintro ⟨a, υ, hfirst, hnext⟩
    rw [hfirst]
    exact hnext

theorem pure_run_some {a b : α} : (pure a : Parser α).run σ = some (b, τ) ↔ b = a ∧ τ = σ := by
  constructor
  · intro h
    obtain ⟨rfl, rfl⟩ := Prod.mk.inj (Option.some.inj h)
    exact ⟨rfl, rfl⟩
  · rintro ⟨rfl, rfl⟩
    rfl

/-- The result of a reader that a function is applied to. -/
theorem map_run_some {parser : Parser α} {f : α → β} {b : β} :
    (parser >>= fun a => pure (f a)).run σ = some (b, τ) ↔ ∃ a, parser.run σ = some (a, τ) ∧ b = f a := by
  simp only [bind_run_some, pure_run_some]
  constructor
  · rintro ⟨a, υ, hrun, rfl, rfl⟩
    exact ⟨a, hrun, rfl⟩
  · rintro ⟨a, hrun, rfl⟩
    exact ⟨a, τ, hrun, rfl, rfl⟩

theorem failure_run_ne_some {r : α × Scanner} : (failure : Parser α).run σ ≠ some r :=
  (Option.some_ne_none _).symm

theorem failure_bind_run_ne_some {next : α → Parser β} {r : β × Scanner} :
    (failure >>= next : Parser β).run σ ≠ some r := (Option.some_ne_none _).symm

theorem takeWhile_ne {c : Char} {text : List Char} (h : c ∉ text) (rest : List Char) :
    (text ++ c :: rest).takeWhile (· != c) = text := by
  have hall : ∀ d ∈ text, (d != c) = true := fun d hd => bne_iff_ne.mpr fun heq => h (heq ▸ hd)
  rw [List.takeWhile_append_of_pos hall, List.takeWhile_cons_of_neg (by simp), List.append_nil]

theorem dropWhile_ne {c : Char} {text : List Char} (h : c ∉ text) (rest : List Char) :
    (text ++ c :: rest).dropWhile (· != c) = c :: rest := by
  have hall : ∀ d ∈ text, (d != c) = true := fun d hd => bne_iff_ne.mpr fun heq => h (heq ▸ hd)
  rw [List.dropWhile_append_of_pos hall, List.dropWhile_cons_of_neg (by simp)]

theorem rest_run (σ : Scanner) : rest.run σ = some (σ.rest, σ) := rfl

theorem peek_run_eq (σ : Scanner) : peek.run σ = some (σ.rest.head?, σ) := rfl

theorem advance_run_of {c : Char} {after : List Char} (hrest : σ.rest = c :: after) :
    advance.run σ = some ((), { σ with rest := after }) := by
  obtain ⟨rest, blanks, names⟩ := σ
  cases hrest
  rfl

theorem current_run_of {c : Char} {after : List Char} (hrest : σ.rest = c :: after) :
    current.run σ = some (c, σ) := by
  obtain ⟨rest, blanks, names⟩ := σ
  cases hrest
  rfl

theorem rest_of_current_run {c : Char} (h : current.run σ = some (c, τ)) :
    τ = σ ∧ ∃ after, σ.rest = c :: after := by
  obtain ⟨rest, blanks, names⟩ := σ
  cases rest with
  | nil => exact absurd h (Option.some_ne_none _).symm
  | cons d after =>
    rw [current_run_of rfl] at h
    obtain ⟨rfl, rfl⟩ := Prod.mk.inj (Option.some.inj h)
    exact ⟨rfl, after, rfl⟩

theorem skipBlanks_run_of (hblanks : σ.ignoreBlanks = true) :
    skipBlanks.run σ = some ((), { σ with rest := dropBlanks false σ.rest }) := by
  obtain ⟨rest, blanks, names⟩ := σ
  cases hblanks
  rfl

theorem skipBlanks_run_of_not (hblanks : σ.ignoreBlanks = false) : skipBlanks.run σ = some ((), σ) := by
  obtain ⟨rest, blanks, names⟩ := σ
  cases hblanks
  rfl

/-! ## Numbers and escapes -/

/-- A decimal number from its first digit on, and the white space behind it. -/
def decimalDigits : Parser Nat := do
  let digits ← digitRun Char.isDigit (← steps) []
  skipWhitespace (← steps)
  match digits, valueOf 10 digits with
  | _ :: _, some value => if value < Nat.pow 2 32 then pure value else failure
  | _, _ => failure

theorem decimal_eq : decimal = (do
    (do setRest ((← rest).dropWhile Character.isWhitespace))
    decimalDigits) := rfl

/-- The name of a word boundary, which is next, and the brace behind it. -/
def namedBoundary : Parser (Option Assertion) := do
  let name ← digitRun isBoundaryLetter (← steps) []
  if (← current) ≠ '}' then failure
  advance
  match String.ofList name.reverse with
  | "start" => pure (some .wordStart)
  | "end" => pure (some .wordEnd)
  | "start-half" => pure (some .wordStartHalf)
  | "end-half" => pure (some .wordEndHalf)
  | _ => failure

theorem boundaryName_run (σ : Scanner) : boundaryName.run σ = (do
    let c ← (do advanceAndSkip; current)
    if !isBoundaryLetter c then
      setRest σ.rest
      pure none
    else namedBoundary : Parser (Option Assertion)).run σ := by
  rw [boundaryName, namedBoundary, StateT.run_bind, StateT.run_get, bind_assoc]
  rfl

/-- What a backslash and one more character stand for. -/
def bareEscape? (c : Char) : Option Primitive :=
  if isEscapable c then some (.literal ⟨c, false⟩)
  else
    match c with
    | 'd' => some (.short .digit false)
    | 'D' => some (.short .digit true)
    | 's' => some (.short .space false)
    | 'S' => some (.short .space true)
    | 'w' => some (.short .word false)
    | 'W' => some (.short .word true)
    | 'a' => some (.literal ⟨'\x07', false⟩)
    | 'f' => some (.literal ⟨'\x0c', false⟩)
    | 't' => some (.literal ⟨'\t', false⟩)
    | 'n' => some (.literal ⟨'\n', false⟩)
    | 'r' => some (.literal ⟨'\r', false⟩)
    | 'v' => some (.literal ⟨'\x0b', false⟩)
    | 'A' => some (.assertion .startText)
    | 'z' => some (.assertion .endText)
    | 'b' => some (.assertion .wordBoundary)
    | 'B' => some (.assertion .notWordBoundary)
    | '<' => some (.assertion .wordStart)
    | '>' => some (.assertion .wordEnd)
    | _ => none

/-- What an escape stands for, given the character behind the backslash, which is next. -/
def escapeOf (c : Char) : Parser Primitive :=
  if c ∈ ['x', 'u', 'U'] then do return .literal (← hexLiteral)
  else if c ∈ ['p', 'P'] then propertyClass
  else do
    advance
    if c = 'b' then
      if (← peek) = some '{' then return .assertion ((← boundaryName).getD .wordBoundary)
      else pure (.assertion .wordBoundary)
    else match bareEscape? c with
      | some primitive => pure primitive
      | none => failure

theorem escape_eq : escape = (do
    advance
    escapeOf (← current)) := by
  rw [escape]
  refine bind_congr fun _ => bind_congr fun c => ?_
  unfold escapeOf
  by_cases hcode : c ∈ ['x', 'u', 'U']
  · rw [if_pos hcode]
    simp only [List.mem_cons, List.not_mem_nil, or_false] at hcode
    rcases hcode with rfl | rfl | rfl <;> rfl
  rw [if_neg hcode]
  by_cases hproperty : c ∈ ['p', 'P']
  · rw [if_pos hproperty]
    simp only [List.mem_cons, List.not_mem_nil, or_false] at hproperty
    rcases hproperty with rfl | rfl <;> rfl
  rw [if_neg hproperty]
  simp only [List.mem_cons, List.not_mem_nil, or_false, not_or] at hcode hproperty
  obtain ⟨hx, hu, hU⟩ := hcode
  obtain ⟨hp, hP⟩ := hproperty
  by_cases hb : c = 'b'
  · subst hb
    rfl
  split <;> first | contradiction | refine bind_congr fun _ => ?_
  rw [if_neg hb]
  unfold bareEscape?
  split
  · rfl
  · split <;> first | contradiction | simp

/-- What a character stands for where it is no part of an escape. -/
def bareChar : Char → Primitive
  | '.' => .dot
  | '^' => .assertion .startLine
  | '$' => .assertion .endLine
  | c => .literal ⟨c, false⟩

theorem primitive_eq : primitive = (do
    let c ← current
    if c = '\\' then escape
    else
      advance
      pure (bareChar c)) := by
  rw [primitive]
  refine bind_congr fun c => ?_
  by_cases hescape : c = '\\'
  · subst hescape
    rfl
  rw [if_neg hescape]
  unfold bareChar
  split <;> first | rfl | contradiction | simp

/-! ## Classes in brackets -/

/-- The character that may follow the dash of a range, given what is behind the dash. -/
def beyondDash (ignoreBlanks : Bool) (after : List Char) : Option Char :=
  let text := after.dropWhile Character.isWhitespace
  let text := if text.head? = some '#' then text.tail.dropWhile Character.isWhitespace else text
  if ignoreBlanks then text.head?.or after.head? else after.head?

theorem peekPast_run (σ : Scanner) :
    peekPast.run σ = some (beyondDash σ.ignoreBlanks σ.rest.tail, σ) := by
  obtain ⟨rest, blanks, names⟩ := σ
  cases blanks with
  | false => rfl
  | true =>
    rw [peekPast, StateT.run_bind, StateT.run_get]
    simp only [Option.pure_def, Option.bind_eq_bind, Option.bind_some, if_true, beyondDash]
    generalize rest.tail.dropWhile Character.isWhitespace = text
    cases text with
    | nil => rfl
    | cons c comment =>
      by_cases hsign : c = '#'
      · subst hsign
        simp only [List.head?_cons, if_true, List.tail_cons]
        generalize comment.dropWhile Character.isWhitespace = text
        cases text <;> rfl
      · simp [hsign]

/-- A class of characters with a name, given what comes after its colon. -/
def namedClass? (negated : Bool) (inner : List Char) : Option (ClassItem × List Char) :=
  match inner.dropWhile (· != ':') with
  | ':' :: ']' :: after =>
    (asciiClass? (String.ofList (inner.takeWhile (· != ':')))).map fun kind => (.ascii kind negated, after)
  | _ => none

theorem asciiItem?_named {inner : List Char} (h : inner.head? ≠ some '^') :
    asciiItem? ('[' :: ':' :: inner) = namedClass? false inner := by
  cases inner with
  | nil => rfl
  | cons c inner =>
    have hc : c ≠ '^' := fun heq => h (congrArg some heq)
    simp [asciiItem?, hc]
    rfl

theorem namedClass?_colon (negated : Bool) {name : List Char} (hname : ':' ∉ name) (more : List Char) :
    namedClass? negated (name ++ ':' :: more) = match more with
      | ']' :: after =>
        (asciiClass? (String.ofList name)).map fun kind => (.ascii kind negated, after)
      | _ => none := by
  rw [namedClass?, dropWhile_ne hname, takeWhile_ne hname]
  rcases more with _ | ⟨c, after⟩
  · rfl
  · by_cases hc : c = ']'
    · subst hc
      rfl
    · simp [hc]

theorem namedClass?_suffix {negated : Bool} {text after : List Char} {item : ClassItem}
    (h : namedClass? negated text = some (item, after)) : after <:+ text := by
  unfold namedClass? at h
  split at h
  · rename_i heq
    obtain ⟨kind, -, hkind⟩ := Option.map_eq_some_iff.mp h
    obtain ⟨-, rfl⟩ := Prod.mk.inj hkind
    have hdrop : text.dropWhile (· != ':') <:+ text := List.dropWhile_suffix _
    rw [heq] at hdrop
    exact (List.suffix_append [_, _] _).trans hdrop
  · exact absurd h (Option.some_ne_none _).symm

/-- An operation between sets at the front of a pattern, and what follows it. -/
def setOperator? : List Char → Option (SetOperator × List Char)
  | '&' :: '&' :: after => some (.intersection, after)
  | '-' :: '-' :: after => some (.difference, after)
  | '~' :: '~' :: after => some (.symmetricDifference, after)
  | _ => none

theorem setOperator?_suffix {text after : List Char} {operator : SetOperator}
    (h : setOperator? text = some (operator, after)) : after <:+ text := by
  unfold setOperator? at h
  split at h <;> first
    | exact absurd h (Option.some_ne_none _).symm
    | obtain ⟨-, rfl⟩ := Prod.mk.inj (Option.some.inj h); exact List.suffix_append [_, _] _

/-- Adds a member to the side that is being read. -/
def ClassState.add (state : ClassState) (item : ClassItem) : ClassState :=
  { state with items := item :: state.items }

/-- One part of the content of brackets, given what is left of the pattern: what has been read then, if the
brackets are not closed. -/
def classPartOf (inner : Parser ClassItem) (state : ClassState) (pattern : List Char) :
    Parser (Option ClassState) := do
  match asciiItem? pattern, setOperator? pattern, pattern with
  | some (item, after), _, _ =>
    setRest after
    pure (some (state.add item))
  | none, some (operator, after), _ =>
    setRest after
    pure (some ⟨some (state.close, operator), []⟩)
  | none, none, '[' :: _ => return some (state.add (← inner))
  | none, none, ']' :: after =>
    setRest after
    pure none
  | none, none, _ :: _ => return some (state.add (← classRange))
  | none, none, [] => failure

def classPart (inner : Parser ClassItem) (state : ClassState) : Parser (Option ClassState) := do
  classPartOf inner state (← rest)

/-- What the content of brackets can begin with. -/
inductive ClassFront : List Char → Prop
  | nothing : ClassFront []
  | opened (after : List Char) : ClassFront ('[' :: after)
  | closed (after : List Char) : ClassFront (']' :: after)
  | intersection (after : List Char) : ClassFront ('&' :: '&' :: after)
  | difference (after : List Char) : ClassFront ('-' :: '-' :: after)
  | symmetricDifference (after : List Char) : ClassFront ('~' :: '~' :: after)
  | member {c : Char} {after : List Char} (hopen : c ≠ '[') (hclose : c ≠ ']')
    (hoperator : setOperator? (c :: after) = none) : ClassFront (c :: after)

theorem classFront (text : List Char) : ClassFront text := by
  rcases text with _ | ⟨c, after⟩
  · exact .nothing
  by_cases hopen : c = '['
  · exact hopen ▸ .opened after
  by_cases hclose : c = ']'
  · exact hclose ▸ .closed after
  by_cases hoperator : setOperator? (c :: after) = none
  · exact .member hopen hclose hoperator
  · unfold setOperator? at hoperator
    split at hoperator <;> rename_i heq
    all_goals first
      | contradiction
      | rw [heq]; first | exact .intersection _ | exact .difference _ | exact .symmetricDifference _

theorem asciiItem?_of_ne {c : Char} (h : c ≠ '[') (after : List Char) : asciiItem? (c :: after) = none := by
  simp [asciiItem?, h]

section

variable {inner : Parser ClassItem} {state : ClassState} {after : List Char}

theorem classPartOf_open (hitem : asciiItem? ('[' :: after) = none) :
    classPartOf inner state ('[' :: after) = do return some (state.add (← inner)) := by
  simp [classPartOf, hitem, setOperator?]

theorem classPartOf_member {c : Char} (hopen : c ≠ '[') (hclose : c ≠ ']')
    (hoperator : setOperator? (c :: after) = none) :
    classPartOf inner state (c :: after) = do return some (state.add (← classRange)) := by
  simp [classPartOf, asciiItem?_of_ne hopen, hoperator]

theorem classPart_run (σ : Scanner) :
    (classPart inner state).run σ = (classPartOf inner state σ.rest).run σ := rfl

theorem classPart_run_item {item : ClassItem} (h : asciiItem? σ.rest = some (item, after)) :
    (classPart inner state).run σ = some (some (state.add item), { σ with rest := after }) := by
  rw [classPart_run]
  unfold classPartOf
  rw [h]
  rfl

theorem classPart_run_operator {operator : SetOperator} (hitem : asciiItem? σ.rest = none)
    (h : setOperator? σ.rest = some (operator, after)) : (classPart inner state).run σ =
      some (some ⟨some (state.close, operator), []⟩, { σ with rest := after }) := by
  rw [classPart_run]
  unfold classPartOf
  rw [hitem, h]
  rfl

theorem classPart_run_open (hitem : asciiItem? σ.rest = none) (h : σ.rest = '[' :: after) :
    (classPart inner state).run σ = (do return some (state.add (← inner)) : Parser _).run σ := by
  rw [h] at hitem
  rw [classPart_run, h, classPartOf_open hitem]

theorem classPart_run_close (h : σ.rest = ']' :: after) :
    (classPart inner state).run σ = some (none, { σ with rest := after }) := by
  rw [classPart_run, h]
  rfl

theorem classPart_run_range {c : Char} (hoperator : setOperator? σ.rest = none) (h : σ.rest = c :: after)
    (hopen : c ≠ '[') (hclose : c ≠ ']') :
    (classPart inner state).run σ = (do return some (state.add (← classRange)) : Parser _).run σ := by
  rw [h] at hoperator
  rw [classPart_run, h, classPartOf_member hopen hclose hoperator]

end

/-- The content of brackets is read part by part. -/
theorem classContent_succ (inner : Parser ClassItem) (steps : Nat) (state : ClassState) :
    classContent inner (steps + 1) state = (do
      skipBlanks
      match ← classPart inner state with
      | none => pure state.close
      | some state => classContent inner steps state) := by
  rw [classContent]
  refine bind_congr fun _ => ?_
  rw [classPart, bind_assoc]
  refine bind_congr fun pattern => ?_
  cases classFront pattern with
  | nothing | closed | intersection | difference | symmetricDifference => rfl
  | opened after =>
    cases hitem : asciiItem? ('[' :: after) with
    | some found =>
      unfold classPartOf
      rw [hitem]
      rfl
    | none =>
      rw [classPartOf_open hitem]
      simp only [bind_assoc, pure_bind]
      rfl
  | member hopen hclose hoperator =>
    rw [classPartOf_member hopen hclose hoperator]
    simp only [bind_assoc, pure_bind]
    -- Every other case of the reader has a front that is ruled out here.
    split <;> first
      | rfl
      | contradiction
      | rename_i heq; cases heq; contradiction

/-! ## Repetition and groups -/

theorem repeatable_run {parts : List Ast} {found : Ast × List Ast}
    (h : (repeatable parts).run σ = some (found, τ)) : τ = σ ∧ parts = found.1 :: found.2 := by
  unfold repeatable at h
  split at h <;> first
    | exact absurd h (Option.some_ne_none _).symm
    | obtain ⟨rfl, rfl⟩ := Prod.mk.inj (Option.some.inj h); exact ⟨rfl, rfl⟩

/-- The upper bound of a counted repetition, which may be the lower one. -/
def upperBound (least : Nat) : Parser (Option Nat) := do
  if (← current) = ',' then
    advanceAndSkip
    if (← current) = '}' then pure none else some <$> decimal
  else pure (some least)

/-- The end of a counted repetition, from its closing brace on. -/
def repetitionEnd (least : Nat) (most : Option Nat) (ast : Ast) : Parser Ast := do
  if (← current) ≠ '}' then failure
  advanceAndSkip
  let greedy ← greediness
  if most.any (· < least) then failure
  return .repetition least most greedy ast

theorem countedRepetition_eq (parts : List Ast) : countedRepetition parts = (do
    let (ast, before) ← repeatable parts
    advanceAndSkip
    let least ← decimal
    let most ← upperBound least
    return (← repetitionEnd least most ast) :: before) := by
  rw [countedRepetition]
  refine bind_congr fun (ast, before) => bind_congr fun _ => bind_congr fun least => ?_
  have hend : ∀ most : Option Nat, (do
      if (← current) ≠ '}' then failure
      advanceAndSkip
      let greedy ← greediness
      if most.any (· < least) then failure
      return .repetition least most greedy ast :: before : Parser (List Ast)) = (do
      return (← repetitionEnd least most ast) :: before) := by
    intro most
    rw [repetitionEnd, bind_assoc]
    refine bind_congr fun c => ?_
    dsimp only
    split
    · rfl
    · simp only [bind_assoc]
      refine bind_congr fun _ => bind_congr fun greedy => ?_
      split <;> rfl
  simp only [← hend, upperBound, bind_assoc]
  refine bind_congr fun c => ?_
  split
  · simp only [bind_assoc]
    refine bind_congr fun _ => bind_congr fun c => ?_
    split <;> rfl
  · rfl

def isGroupName : List Char → Bool
  | [] => false
  | first :: more => isNameChar true first && more.all (isNameChar false)

theorem groupName_run {name after : List Char} (hname : '>' ∉ name) (h : σ.rest = name ++ '>' :: after) :
    groupName.run σ = if isGroupName name && !σ.names.contains name then
      some ((), { σ with rest := after, names := name :: σ.names }) else none := by
  have htake : σ.rest.takeWhile (· != '>') = name := by rw [h, takeWhile_ne hname]
  have hdrop : σ.rest.drop name.length = '>' :: after := by
    rw [h, List.drop_left]
  rw [groupName, StateT.run_bind, rest_run]
  simp only [Option.bind_eq_bind, Option.bind_some, htake, hdrop]
  cases name with
  | nil => rfl
  | cons first more =>
    obtain ⟨text, blanks, names⟩ := σ
    by_cases hallowed : (isNameChar true first && more.all (isNameChar false)) = true
    · by_cases hknown : names.contains (first :: more) = true
      · simp only [isGroupName, hallowed, hknown, Bool.not_true, Bool.false_eq_true, if_false, if_true,
          Bool.and_false, StateT.run_bind, StateT.run_get, Option.pure_def, Option.bind_eq_bind,
          Option.bind_some]
        rfl
      · simp only [isGroupName, hallowed, hknown, Bool.not_true, Bool.false_eq_true, if_false, if_true,
          Bool.true_and, Bool.not_false, StateT.run_bind, StateT.run_get, Option.pure_def,
          Option.bind_eq_bind, Option.bind_some]
        rfl
    · simp only [isGroupName, hallowed, Bool.not_false, if_true, Bool.false_and, Bool.false_eq_true, if_false]
      rfl

theorem groupName_run_of_not_mem (h : '>' ∉ σ.rest) : groupName.run σ = none := by
  have hall : ∀ c ∈ σ.rest, (c != '>') = true := fun c hc => bne_iff_ne.mpr fun heq => h (heq ▸ hc)
  have htake : σ.rest.takeWhile (· != '>') = σ.rest := by
    have htaken : (σ.rest ++ []).takeWhile (· != '>') = σ.rest ++ [].takeWhile (· != '>') :=
      List.takeWhile_append_of_pos hall
    rwa [List.append_nil, List.takeWhile_nil, List.append_nil] at htaken
  rw [groupName, StateT.run_bind, rest_run]
  simp only [Option.bind_eq_bind, Option.bind_some, htake, List.drop_length]
  split
  · contradiction
  · rfl

/-- The switches of a group, or those to set, behind the question mark. -/
def switches : Parser Opening := do
  let change := (← flagRun (← steps) false false []).reverse
  let isFlags := (← current) = ')'
  advance
  if isFlags then
    if change.isEmpty then failure else pure (.flags change)
  else pure (.group change)

/-- What the sign of a name decides about a group. -/
def groupOpening (named : Bool) : Parser Opening := do
  if named then
    groupName
    pure (.group [])
  else if ← take? ['?'] then switches
  else pure (.group [])

theorem opening_eq : opening = (do
    advanceAndSkip
    for sign in [['?', '='], ['?', '!'], ['?', '<', '='], ['?', '<', '!']] do
      if ← take? sign then failure
    if ← take? ['?', 'P', '<'] then groupOpening true
    else groupOpening (← take? ['?', '<'])) := rfl

/-! ## Expressions -/

/-- What has been read of an expression: the branches before the one that is being read, and the parts of
that one, both in reverse. -/
structure BranchState where
  before : List Ast
  parts : List Ast

def BranchState.next (state : BranchState) : BranchState :=
  ⟨Ast.ofParts state.parts.reverse :: state.before, []⟩

/-- The expression read so far. -/
def BranchState.close (state : BranchState) : Ast := Ast.ofBranches state.next.before.reverse

/-- Adds a part to the branch that is being read. -/
def BranchState.add (state : BranchState) (part : Ast) : BranchState :=
  { state with parts := part :: state.parts }

/-- A group, or switches in parentheses.  After a group blanks are treated as before. -/
def groupWithin (outer : Bool) (inner : Parser Ast) : Parser Ast := do
  match ← opening with
  | .flags change =>
    applyBlanks change
    pure (.flags change)
  | .group change =>
    applyBlanks change
    let body ← inner
    if (← current) ≠ ')' then failure
    modify fun scanner => { scanner with ignoreBlanks := outer }
    advance
    pure (.group change body)

/-- A group, or switches in parentheses, where the reader is. -/
def group (inner : Parser Ast) : Parser Ast := do groupWithin (← get).ignoreBlanks inner

/-- The operators of one character that repeat what is before them, with the bounds they stand for. -/
def repetitionBounds? : Char → Option (Nat × Option Nat)
  | '?' => some (0, some 1)
  | '*' => some (0, none)
  | '+' => some (1, none)
  | _ => none

/-- The characters that begin no primitive outside of brackets. -/
def isOperator (c : Char) : Bool := [')', '|', '(', '[', '?', '*', '+', '{'].contains c

/-- One part of an expression, given the next character: what has been read then, if the expression is not at
its end. -/
def branchPartOf (inner : Parser Ast) (state : BranchState) : Option Char → Parser (Option BranchState)
  | none => pure none
  | some ')' => pure none
  | some '|' => do
    advance
    pure (some state.next)
  | some '(' => do return some (state.add (← group inner))
  | some '[' => do
    let (negated, set) ← bracketed (maxNesting + 1)
    pure (some (state.add (.bracketed negated set)))
  | some '?' => do return some { state with parts := ← simpleRepetition 0 (some 1) state.parts }
  | some '*' => do return some { state with parts := ← simpleRepetition 0 none state.parts }
  | some '+' => do return some { state with parts := ← simpleRepetition 1 none state.parts }
  | some '{' => do return some { state with parts := ← countedRepetition state.parts }
  | some _ => do return some (state.add (← primitive).toAst)

def branchPart (inner : Parser Ast) (state : BranchState) : Parser (Option BranchState) := do
  branchPartOf inner state (← peek)

/-- What a part of an expression can begin with. -/
inductive PartFront : Char → Prop
  | closed : PartFront ')'
  | next : PartFront '|'
  | group : PartFront '('
  | bracketed : PartFront '['
  | counted : PartFront '{'
  | simple {c : Char} {least : Nat} {most : Option Nat} (hbounds : repetitionBounds? c = some (least, most)) :
    PartFront c
  | primitive {c : Char} (hc : isOperator c = false) : PartFront c

theorem partFront (c : Char) : PartFront c := by
  cases hc : isOperator c with
  | false => exact .primitive hc
  | true =>
    simp only [isOperator, List.contains_eq_mem, decide_eq_true_eq, List.mem_cons, List.not_mem_nil, or_false] at hc
    rcases hc with rfl | rfl | rfl | rfl | rfl | rfl | rfl | rfl
    all_goals first | exact .simple rfl | constructor

theorem eq_of_repetitionBounds? {c : Char} {bounds : Nat × Option Nat}
    (h : repetitionBounds? c = some bounds) :
    c = '?' ∧ bounds = (0, some 1) ∨ c = '*' ∧ bounds = (0, none) ∨ c = '+' ∧ bounds = (1, none) := by
  unfold repetitionBounds? at h
  split at h <;> simp_all

section

variable {inner : Parser Ast} {state : BranchState} {c : Char}

theorem branchPartOf_simple {least : Nat} {most : Option Nat}
    (hbounds : repetitionBounds? c = some (least, most)) : branchPartOf inner state (some c) = do
      return some { state with parts := ← simpleRepetition least most state.parts } := by
  rcases eq_of_repetitionBounds? hbounds with ⟨rfl, heq⟩ | ⟨rfl, heq⟩ | ⟨rfl, heq⟩ <;> cases heq <;> rfl

theorem ne_of_isOperator_eq_false (hc : isOperator c = false) : c ≠ ')' ∧ c ≠ '|' ∧ c ≠ '(' ∧ c ≠ '[' ∧
    c ≠ '?' ∧ c ≠ '*' ∧ c ≠ '+' ∧ c ≠ '{' := by
  simpa [isOperator] using hc

theorem branchPartOf_primitive (hc : isOperator c = false) :
    branchPartOf inner state (some c) = do return some (state.add (← primitive).toAst) := by
  obtain ⟨hclose, hnext, hopen, hbracket, hquestion, hstar, hplus, hbrace⟩ := ne_of_isOperator_eq_false hc
  simp [branchPartOf]

theorem branchPart_run (σ : Scanner) :
    (branchPart inner state).run σ = (branchPartOf inner state σ.rest.head?).run σ := rfl

end

/-- An expression is read part by part. -/
theorem branchesRest_succ (inner : Parser Ast) (steps : Nat) (before parts : List Ast) :
    branchesRest inner (steps + 1) before parts = (do
      skipBlanks
      match ← branchPart inner ⟨before, parts⟩ with
      | none => pure (BranchState.mk before parts).close
      | some state => branchesRest inner steps state.before state.parts) := by
  rw [branchesRest]
  refine bind_congr fun _ => ?_
  rw [branchPart, bind_assoc]
  refine bind_congr fun front => ?_
  rcases front with _ | c
  · rfl
  cases partFront c with
  | closed => rfl
  | next =>
    simp only [branchPartOf, bind_assoc, pure_bind]
    rfl
  | group =>
    simp only [branchPartOf, group, groupWithin, bind_assoc]
    refine bind_congr fun scanner => bind_congr fun opened => ?_
    cases opened with
    | flags change =>
      simp only [bind_assoc, pure_bind]
      rfl
    | group change =>
      simp only [bind_assoc]
      refine bind_congr fun _ => bind_congr fun body => bind_congr fun c => ?_
      split
      · simp only [bind_assoc]
        rfl
      · simp only [bind_assoc, pure_bind]
        rfl
  | bracketed =>
    simp only [branchPartOf, bind_assoc]
    refine bind_congr fun read => ?_
    rw [pure_bind]
    rfl
  | simple hbounds =>
    rw [branchPartOf_simple hbounds]
    simp only [bind_assoc, pure_bind]
    rcases eq_of_repetitionBounds? hbounds with ⟨rfl, heq⟩ | ⟨rfl, heq⟩ | ⟨rfl, heq⟩ <;> cases heq <;> rfl
  | counted => simp only [branchPartOf, bind_assoc, pure_bind]
  | primitive hc =>
    obtain ⟨hclose, hnext, hopen, hbracket, hquestion, hstar, hplus, hbrace⟩ := ne_of_isOperator_eq_false hc
    rw [branchPartOf_primitive hc]
    simp only [bind_assoc, pure_bind]
    rfl

/-- What the reader of a part can do: it ends a branch, adds a part, or repeats the last one. -/
inductive PartRead (inner : Parser Ast) (state : BranchState) (σ : Scanner) :
    BranchState → Scanner → Prop
  | next {after : List Char} (hrest : σ.rest = '|' :: after) :
    PartRead inner state σ state.next { σ with rest := after }
  | group {after : List Char} {part : Ast} {τ : Scanner} (hrest : σ.rest = '(' :: after)
    (hrun : (group inner).run σ = some (part, τ)) : PartRead inner state σ (state.add part) τ
  | bracketed {after : List Char} {negated : Bool} {set : ClassSet} {τ : Scanner}
    (hrest : σ.rest = '[' :: after)
    (hrun : (bracketed (maxNesting + 1)).run σ = some ((negated, set), τ)) :
    PartRead inner state σ (state.add (.bracketed negated set)) τ
  | simple {c : Char} {after : List Char} {least : Nat} {most : Option Nat} {parts : List Ast} {τ : Scanner}
    (hrest : σ.rest = c :: after) (hbounds : repetitionBounds? c = some (least, most))
    (hrun : (simpleRepetition least most state.parts).run σ = some (parts, τ)) :
    PartRead inner state σ { state with parts } τ
  | counted {after : List Char} {parts : List Ast} {τ : Scanner} (hrest : σ.rest = '{' :: after)
    (hrun : (countedRepetition state.parts).run σ = some (parts, τ)) :
    PartRead inner state σ { state with parts } τ
  | primitive {c : Char} {after : List Char} {part : Primitive} {τ : Scanner} (hrest : σ.rest = c :: after)
    (hc : isOperator c = false) (hrun : primitive.run σ = some (part, τ)) :
    PartRead inner state σ (state.add part.toAst) τ

/-- A part is read just if one of the ways to read it succeeds. -/
theorem branchPart_run_some {inner : Parser Ast} {state state' : BranchState} :
    (branchPart inner state).run σ = some (some state', τ) ↔ PartRead inner state σ state' τ := by
  rw [branchPart_run]
  constructor
  · intro h
    cases hrest : σ.rest with
    | nil =>
      rw [hrest] at h
      cases h
    | cons c after =>
      rw [hrest, List.head?_cons] at h
      cases partFront c with
      | closed => cases h
      | next =>
        obtain ⟨_, hadvance, hstate⟩ := map_run_some.mp h
        obtain ⟨-, rfl⟩ := Prod.mk.inj (Option.some.inj ((advance_run_of hrest).symm.trans hadvance))
        cases hstate
        exact .next hrest
      | group =>
        obtain ⟨part, hrun, hstate⟩ := map_run_some.mp h
        cases hstate
        exact .group hrest hrun
      | bracketed =>
        obtain ⟨⟨negated, set⟩, hrun, hstate⟩ := map_run_some.mp h
        cases hstate
        exact .bracketed hrest hrun
      | simple hbounds =>
        rw [branchPartOf_simple hbounds] at h
        obtain ⟨parts, hrun, hstate⟩ := map_run_some.mp h
        cases hstate
        exact .simple hrest hbounds hrun
      | counted =>
        obtain ⟨parts, hrun, hstate⟩ := map_run_some.mp h
        cases hstate
        exact .counted hrest hrun
      | primitive hc =>
        rw [branchPartOf_primitive hc] at h
        obtain ⟨part, hrun, hstate⟩ := map_run_some.mp h
        cases hstate
        exact .primitive hrest hc hrun
  · intro h
    cases h with
    | next hrest =>
      rw [hrest]
      exact map_run_some.mpr ⟨(), advance_run_of hrest, rfl⟩
    | group hrest hrun =>
      rw [hrest]
      exact map_run_some.mpr ⟨_, hrun, rfl⟩
    | bracketed hrest hrun =>
      rw [hrest]
      exact map_run_some.mpr ⟨_, hrun, rfl⟩
    | simple hrest hbounds hrun =>
      rw [hrest, List.head?_cons, branchPartOf_simple hbounds]
      exact map_run_some.mpr ⟨_, hrun, rfl⟩
    | counted hrest hrun =>
      rw [hrest]
      exact map_run_some.mpr ⟨_, hrun, rfl⟩
    | primitive hrest hc hrun =>
      rw [hrest, List.head?_cons, branchPartOf_primitive hc]
      exact map_run_some.mpr ⟨_, hrun, rfl⟩

/-- No part is left at the end of a pattern and before a closing parenthesis. -/
theorem branchPart_run_none {inner : Parser Ast} {state : BranchState} :
    (branchPart inner state).run σ = some (none, τ) ↔
      τ = σ ∧ (σ.rest = [] ∨ ∃ after, σ.rest = ')' :: after) := by
  constructor
  · intro h
    rw [branchPart_run] at h
    cases hrest : σ.rest with
    | nil =>
      rw [hrest] at h
      cases h
      exact ⟨rfl, Or.inl rfl⟩
    | cons c after =>
      rw [hrest, List.head?_cons] at h
      cases partFront c with
      | closed =>
        cases h
        exact ⟨rfl, Or.inr ⟨after, rfl⟩⟩
      | simple hbounds =>
        rw [branchPartOf_simple hbounds] at h
        obtain ⟨_, -, hstate⟩ := map_run_some.mp h
        contradiction
      | primitive hc =>
        rw [branchPartOf_primitive hc] at h
        obtain ⟨_, -, hstate⟩ := map_run_some.mp h
        contradiction
      | next | group | bracketed | counted =>
        obtain ⟨_, -, hstate⟩ := map_run_some.mp h
        contradiction
  · rintro ⟨rfl, hrest | ⟨after, hrest⟩⟩ <;> rw [branchPart_run, hrest] <;> rfl

/-- What reading from an opening parenthesis can give: switches, or a group up to its closing parenthesis. -/
theorem group_run_some {inner : Parser Ast} {part : Ast} : (group inner).run σ = some (part, τ) ↔
    (∃ change υ, opening.run σ = some (.flags change, υ) ∧ (applyBlanks change).run υ = some ((), τ) ∧
      part = .flags change) ∨
    ∃ change υ υ' body υ'' after, opening.run σ = some (.group change, υ) ∧
      (applyBlanks change).run υ = some ((), υ') ∧ inner.run υ' = some (body, υ'') ∧
      υ''.rest = ')' :: after ∧ part = .group change body ∧
      τ = { υ'' with rest := after, ignoreBlanks := σ.ignoreBlanks } := by
  have hgroup : (group inner).run σ = (groupWithin σ.ignoreBlanks inner).run σ := rfl
  -- What is behind the body of a group.
  have hclose : ∀ (change : FlagChange) (body : Ast) (υ : Scanner), (do
      if (← current) ≠ ')' then failure
      modify fun scanner => { scanner with ignoreBlanks := σ.ignoreBlanks }
      advance
      pure (.group change body) : Parser Ast).run υ = some (part, τ) ↔ ∃ after, υ.rest = ')' :: after ∧
        part = .group change body ∧ τ = { υ with rest := after, ignoreBlanks := σ.ignoreBlanks } := by
    intro change body υ
    obtain ⟨text, blanks, names⟩ := υ
    cases text with
    | nil => exact ⟨fun h => absurd h (Option.some_ne_none _).symm, fun ⟨after, h, _⟩ => absurd h (by simp)⟩
    | cons c after =>
      rw [StateT.run_bind, current_run_of rfl]
      by_cases hc : c = ')'
      · subst hc
        constructor
        · intro h
          obtain ⟨rfl, rfl⟩ := Prod.mk.inj (Option.some.inj h)
          exact ⟨after, rfl, rfl, rfl⟩
        · rintro ⟨_, hrest, rfl, rfl⟩
          cases hrest
          rfl
      · simp only [Option.bind_eq_bind, Option.bind_some, ne_eq, hc, not_false_iff, if_true]
        exact ⟨fun h => absurd h (Option.some_ne_none _).symm, fun ⟨_, h, _⟩ => absurd (List.cons.inj h).1 hc⟩
  rw [hgroup, groupWithin, bind_run_some]
  constructor
  · rintro ⟨opened, υ, hopening, h⟩
    cases opened with
    | flags change =>
      obtain ⟨_, hblanks, rfl⟩ := map_run_some.mp h
      exact Or.inl ⟨change, υ, hopening, hblanks, rfl⟩
    | group change =>
      obtain ⟨_, υ', hblanks, h⟩ := bind_run_some.mp h
      obtain ⟨body, υ'', hbody, h⟩ := bind_run_some.mp h
      obtain ⟨after, hrest, rfl, rfl⟩ := (hclose change body υ'').mp h
      exact Or.inr ⟨change, υ, υ', body, υ'', after, hopening, hblanks, hbody, hrest, rfl, rfl⟩
  · rintro (⟨change, υ, hopening, hblanks, hpart⟩ |
      ⟨change, υ, υ', body, υ'', after, hopening, hblanks, hbody, hrest, hpart, hscanner⟩)
    · exact ⟨.flags change, υ, hopening, map_run_some.mpr ⟨(), hblanks, hpart⟩⟩
    · refine ⟨.group change, υ, hopening, ?_⟩
      dsimp only
      rw [bind_run_some]
      refine ⟨(), υ', hblanks, ?_⟩
      rw [bind_run_some]
      exact ⟨body, υ'', hbody, (hclose change body υ'').mpr ⟨after, hrest, hpart, hscanner⟩⟩

/-- What one round of reading an expression does: it ends, or a part is read and the next round follows. -/
theorem branchesRest_run_some {inner : Parser Ast} {steps : Nat} {before parts : List Ast} {ast : Ast} :
    (branchesRest inner (steps + 1) before parts).run σ = some (ast, τ) ↔
      ∃ υ, skipBlanks.run σ = some ((), υ) ∧
        ((υ.rest = [] ∨ ∃ after, υ.rest = ')' :: after) ∧ ast = (BranchState.mk before parts).close ∧ τ = υ ∨
          ∃ state υ', PartRead inner ⟨before, parts⟩ υ state υ' ∧
            (branchesRest inner steps state.before state.parts).run υ' = some (ast, τ)) := by
  rw [branchesRest_succ, bind_run_some]
  constructor
  · rintro ⟨_, υ, hskip, hround⟩
    obtain ⟨part, υ', hpart, hnext⟩ := bind_run_some.mp hround
    refine ⟨υ, hskip, ?_⟩
    cases part with
    | none =>
      obtain ⟨rfl, hend⟩ := branchPart_run_none.mp hpart
      obtain ⟨rfl, rfl⟩ := pure_run_some.mp hnext
      exact Or.inl ⟨hend, rfl, rfl⟩
    | some state => exact Or.inr ⟨state, υ', branchPart_run_some.mp hpart, hnext⟩
  · rintro ⟨υ, hskip, ⟨hend, hast, hscanner⟩ | ⟨state, υ', hpart, hnext⟩⟩
    · refine ⟨(), υ, hskip, bind_run_some.mpr ⟨none, υ, branchPart_run_none.mpr ⟨rfl, hend⟩, ?_⟩⟩
      exact pure_run_some.mpr ⟨hast, hscanner⟩
    · exact ⟨(), υ, hskip, bind_run_some.mpr ⟨some state, υ', branchPart_run_some.mpr hpart, hnext⟩⟩

end EditorBridge.Regex.Parser
