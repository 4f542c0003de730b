import EditorBridge.Tokenizer.Description
import EditorBridge.Tokenizer.Escape
import Mathlib.Data.List.Infix
/-!
How an editor runs a state of a tokenizer.  Patterns of rules are read as far as comments need them:
literal text, and one character or a longest run of characters in or outside a class, where a backslash
before a character that is not alphanumeric denotes that character.  At each place the first rule that
matches there applies.
-/

set_option autoImplicit false

namespace EditorBridge.Editor

/-! ## Patterns -/

/-- A member of a class. -/
inductive Member
  | char (c : Char)
  | range (first last : Char)
deriving DecidableEq

/-- Whether a character belongs to a member of a class. -/
def Member.has : Member → Char → Bool
  | char member, c => c == member
  | range first last, c => first ≤ c && c ≤ last

/-- What a pattern says. -/
inductive Form
  | literal (text : List Char)
  /-- One character, in a class or outside it. -/
  | one (negated : Bool) (members : List Member)
  /-- The longest run of such characters. -/
  | run (negated : Bool) (members : List Member)
deriving DecidableEq

/-- A character of a class as it is written; a bare one may have a meaning of its own. -/
structure Written where
  char : Char
  bare : Bool
deriving DecidableEq

/-- The characters of a class up to its closing bracket, and what follows it.  Escapes of alphanumeric
characters stand for something else and are not read. -/
def readClass : List Char → Option (List Written × List Char)
  | [] => none
  | ']' :: rest => some ([], rest)
  | '\\' :: c :: rest =>
    if Character.isAlphanumeric c then none
    else (readClass rest).map fun (written, after) => (⟨c, false⟩ :: written, after)
  | c :: rest => (readClass rest).map fun (written, after) => (⟨c, true⟩ :: written, after)

/-- The members of a class; a bare dash between two characters makes a range of them. -/
def membersOf : List Written → List Member
  | first :: dash :: last :: rest =>
    if dash = ⟨'-', true⟩ then .range first.char last.char :: membersOf rest
    else .char first.char :: membersOf (dash :: last :: rest)
  | first :: rest => .char first.char :: membersOf rest
  | [] => []

/-- Characters that have a meaning of their own outside of classes. -/
def special : List Char := ['\\', '^', '$', '.', '|', '?', '*', '+', '(', ')', '[', ']', '{', '}']

/-- The text of a pattern that is a literal. -/
def readLiteral : List Char → Option (List Char)
  | [] => some []
  | '\\' :: c :: rest =>
    if Character.isAlphanumeric c then none else (readLiteral rest).map (c :: ·)
  | c :: rest => if special.contains c then none else (readLiteral rest).map (c :: ·)

/-- Reads a pattern whose opening bracket is taken. -/
def readBrackets (pattern : List Char) : Option Form := do
  let (negated, body) := match pattern with
    | '^' :: body => (true, body)
    | body => (false, body)
  let (written, after) ← readClass body
  match after with
  | [] => some (.one negated (membersOf written))
  | ['+'] => some (.run negated (membersOf written))
  | _ => none

/-- Reads the pattern of a rule. -/
def readForm : List Char → Option Form
  | '[' :: rest => readBrackets rest
  | pattern => (readLiteral pattern).map .literal

/-- The characters that a class accepts. -/
def accepts (negated : Bool) (members : List Member) (c : Char) : Bool :=
  members.any (·.has c) != negated

/-- How many characters at the start of a text a pattern matches. -/
def Form.length? (text : List Char) : Form → Option Nat
  | literal sought => if sought.isPrefixOf text then some sought.length else none
  | one negated members =>
    match text with
    | [] => none
    | c :: _ => if accepts negated members c then some 1 else none
  | run negated members =>
    match text.takeWhile (accepts negated members) with
    | [] => none
    | taken => some taken.length

/-! ## States -/

/-- Where a rule leads if its action is a single token. -/
def target? : Action → Option String
  | .token _ next => next
  | .cases _ => none

/-- How many characters at the start of a text a rule takes, and where it leads. -/
def taken? (text : List Char) : TokenizerRule → Option (Nat × Option String)
  | .matching regex action => do
    let form ← readForm regex.toList
    let length ← form.length? text
    return (length, target? action)
  | .including _ => none

/-- How running a state ends. -/
inductive Outcome
  /-- A rule leads elsewhere, with some text left. -/
  | left (target : String) (rest : List Char)
  /-- The text is used up. -/
  | ended
  /-- No rule takes any of the text that is left. -/
  | stuck (rest : List Char)
deriving DecidableEq

/-- Runs a state on a text. -/
def runState (state : State) (text : List Char) : Outcome :=
  match text with
  | [] => .ended
  | c :: rest =>
    match state.rules.findSome? (taken? (c :: rest)) with
    | none | some (0, _) => .stuck (c :: rest)
    | some (length + 1, some target) => .left target (rest.drop length)
    | some (length + 1, none) => runState state (rest.drop length)
termination_by text.length
decreasing_by
  simp only [List.length_drop, List.length_cons]
  omega

/-! ## Reading what is escaped -/

theorem not_alphanumeric_of_meta {c : Char} (hc : c ∈ Pattern.metacharacters) :
    ¬ Character.isAlphanumeric c = true := by
  simp only [Pattern.metacharacters, List.mem_cons, List.not_mem_nil, or_false] at hc
  rcases hc with rfl | rfl | rfl | rfl | rfl | rfl | rfl | rfl | rfl | rfl | rfl | rfl | rfl | rfl |
    rfl <;> decide

theorem readLiteral_escapeChar (c : Char) (rest : List Char) :
    readLiteral (Pattern.escapeChar c ++ rest) = (readLiteral rest).map (c :: ·) := by
  by_cases hc : c ∈ Pattern.metacharacters
  · rw [Pattern.escapeChar_of_mem hc]
    exact if_neg (not_alphanumeric_of_meta hc)
  · have hspecial : ¬ special.contains c = true := by
      have hsubset : special ⊆ Pattern.metacharacters := by decide
      exact fun h => hc (hsubset (List.contains_iff_mem.mp h))
    have hne : c ≠ '\\' := by
      rintro rfl
      exact hc (by decide)
    rw [Pattern.escapeChar_of_not_mem hc, List.singleton_append, readLiteral, if_neg hspecial]
    intro d after hsame
    exact absurd hsame hne

theorem readLiteral_escape (literal : List Char) :
    readLiteral (literal.flatMap Pattern.escapeChar) = some literal := by
  induction literal with
  | nil => rfl
  | cons c literal ih => rw [List.flatMap_cons, readLiteral_escapeChar, ih, Option.map_some]

/-- An escaped literal is read as that literal. -/
theorem readForm_escape (literal : String) :
    readForm (Pattern.escape literal).toList = some (.literal literal.toList) := by
  have hread := readLiteral_escape literal.toList
  rw [Pattern.escape, String.toList_ofList, readForm, hread, Option.map_some]
  intro rest hsame
  -- A bracket at the front would be escaped.
  cases hchars : literal.toList with
  | nil =>
    rw [hchars] at hsame
    cases hsame
  | cons c more =>
    rw [hchars, List.flatMap_cons] at hsame
    by_cases hc : c ∈ Pattern.metacharacters
    · rw [Pattern.escapeChar_of_mem hc] at hsame
      cases hsame
    · rw [Pattern.escapeChar_of_not_mem hc] at hsame
      have hbracket : c = '[' := (List.cons.inj hsame).1
      rw [hbracket] at hc
      exact hc (by decide)

/-- A member of a class as it is written, bare if it is alphanumeric or an underscore. -/
def Written.ofMember (c : Char) : Written := ⟨c, Character.isAlphanumeric c || c == '_'⟩

theorem Written.ofMember_ne_dash (c : Char) : ofMember c ≠ ⟨'-', true⟩ := by
  intro hsame
  obtain ⟨rfl, hbare⟩ := Written.mk.inj hsame
  exact absurd hbare (by decide)

theorem readClass_classMember (c : Char) (rest : List Char) :
    readClass (Pattern.classMember c ++ rest) =
      (readClass rest).map fun (written, after) => (.ofMember c :: written, after) := by
  by_cases hc : (Character.isAlphanumeric c || c == '_') = true
  · have hmeaning : c ≠ ']' ∧ c ≠ '\\' := by
      refine ⟨?_, ?_⟩ <;> (rintro rfl; exact absurd hc (by decide))
    rw [Written.ofMember, hc, Pattern.classMember, if_pos hc, List.singleton_append, readClass]
    · intro hsame
      exact absurd hsame hmeaning.1
    · intro d after hsame
      exact absurd hsame hmeaning.2
  · have hplain : ¬ Character.isAlphanumeric c = true := fun h => hc (by rw [h, Bool.true_or])
    rw [Written.ofMember, eq_false_of_ne_true hc, Pattern.classMember, if_neg hc]
    exact if_neg hplain

theorem readClass_flatMap_classMember (members rest : List Char) :
    readClass (members.flatMap Pattern.classMember ++ ']' :: rest) =
      some (members.map .ofMember, rest) := by
  induction members with
  | nil => rfl
  | cons c members ih =>
    rw [List.flatMap_cons, List.append_assoc, readClass_classMember, ih, Option.map_some,
      List.map_cons]

/-- No two members of a class make a range. -/
theorem membersOf_ofMember : ∀ members : List Char,
    membersOf (members.map .ofMember) = members.map Member.char
  | [] => rfl
  | [_] => rfl
  | [_, _] => rfl
  | first :: second :: third :: rest => by
    have ih := membersOf_ofMember (second :: third :: rest)
    rw [List.map_cons, List.map_cons, List.map_cons, membersOf, if_neg (Written.ofMember_ne_dash _),
      List.map_cons]
    exact congrArg _ ih

theorem accepts_chars (negated : Bool) (members : List Char) (c : Char) :
    accepts negated (members.map .char) c = (members.contains c != negated) := by
  have hany : (members.map Member.char).any (·.has c) = members.contains c := by
    rw [List.any_map, Bool.eq_iff_iff, List.any_eq_true, List.contains_iff_mem]
    simp [Member.has]
  rw [accepts, hany]

theorem mem_distinct {seen chars : List Char} {c : Char} :
    c ∈ Pattern.distinct seen chars ↔ c ∈ chars ∧ c ∉ seen := by
  induction chars generalizing seen with
  | nil => simp [Pattern.distinct]
  | cons first rest ih =>
    rw [Pattern.distinct]
    by_cases hseen : seen.contains first = true
    · have hmem : first ∈ seen := List.contains_iff_mem.mp hseen
      rw [if_pos hseen, ih, List.mem_cons]
      constructor
      · rintro ⟨hrest, hnew⟩
        exact ⟨Or.inr hrest, hnew⟩
      · rintro ⟨rfl | hrest, hnew⟩
        · exact absurd hmem hnew
        · exact ⟨hrest, hnew⟩
    · have hmem : first ∉ seen := fun h => hseen (List.contains_iff_mem.mpr h)
      rw [if_neg hseen, List.mem_cons, ih, List.mem_cons, List.mem_cons, not_or]
      constructor
      · rintro (rfl | ⟨hrest, _, hnew⟩)
        · exact ⟨Or.inl rfl, hmem⟩
        · exact ⟨Or.inr hrest, hnew⟩
      · rintro ⟨hc, hnew⟩
        by_cases hsame : c = first
        · exact Or.inl hsame
        · exact Or.inr ⟨hc.resolve_left hsame, hsame, hnew⟩

theorem mem_distinct_nil {chars : List Char} {c : Char} : c ∈ Pattern.distinct [] chars ↔ c ∈ chars := by
  rw [mem_distinct]
  simp

/-- The members that the body of a class stands for. -/
def membersIn (chars : List Char) : List Member := (Pattern.distinct [] chars).map .char

theorem accepts_membersIn (negated : Bool) (chars : List Char) (c : Char) :
    accepts negated (membersIn chars) c = (chars.contains c != negated) := by
  have hcontains : (Pattern.distinct [] chars).contains c = chars.contains c := by
    rw [Bool.eq_iff_iff, List.contains_iff_mem, List.contains_iff_mem, mem_distinct_nil]
  rw [membersIn, accepts_chars, hcontains]

theorem readClass_classBody (chars : String) (rest : List Char) :
    readClass ((Pattern.classBody chars).toList ++ ']' :: rest) =
      some ((Pattern.distinct [] chars.toList).map .ofMember, rest) := by
  rw [Pattern.classBody, String.toList_ofList, readClass_flatMap_classMember]

/-- A body with members does not start with a sign that means something else at the front of a class. -/
theorem exists_classBody_cons {chars : String} (hne : chars ≠ "") :
    ∃ sign after, (Pattern.classBody chars).toList = sign :: after ∧ sign ≠ '^' ∧ sign ≠ ']' := by
  rw [Pattern.classBody, String.toList_ofList]
  cases hchars : chars.toList with
  | nil => exact absurd (String.toList_eq_nil_iff.mp hchars) hne
  | cons c rest =>
    have hdistinct : Pattern.distinct [] (c :: rest) = c :: Pattern.distinct [c] rest := rfl
    rw [hdistinct, List.flatMap_cons, Pattern.classMember]
    split
    · rename_i hc
      refine ⟨c, _, rfl, ?_, ?_⟩ <;> (rintro rfl; exact absurd hc (by decide))
    · exact ⟨'\\', _, rfl, by decide, by decide⟩

/-- The body of a class does not start with a bare caret, which would negate it. -/
theorem classBody_ne_caret (chars : String) (rest body : List Char) :
    (Pattern.classBody chars).toList ++ ']' :: rest ≠ '^' :: body := by
  intro hsame
  by_cases hne : chars = ""
  · rw [hne] at hsame
    exact absurd (List.cons.inj hsame).1 (by decide)
  · obtain ⟨sign, after, hbody, hcaret, -⟩ := exists_classBody_cons hne
    rw [hbody] at hsame
    exact hcaret (List.cons.inj hsame).1

/-- A longest run outside the characters of a text. -/
theorem readForm_outside (chars : String) :
    readForm ("[^" ++ Pattern.classBody chars ++ "]+").toList =
      some (.run true (membersIn chars.toList)) := by
  have hread := readClass_classBody chars ['+']
  have htext : ("[^" ++ Pattern.classBody chars ++ "]+").toList =
      '[' :: '^' :: ((Pattern.classBody chars).toList ++ ']' :: ['+']) := by
    simp
  rw [htext, readForm, readBrackets]
  simp only [hread, Option.bind_eq_bind, Option.bind_some, membersOf_ofMember, membersIn]

/-- One of the characters of a text. -/
theorem readForm_inside (chars : String) :
    readForm ("[" ++ Pattern.classBody chars ++ "]").toList =
      some (.one false (membersIn chars.toList)) := by
  have hread := readClass_classBody chars []
  have htext : ("[" ++ Pattern.classBody chars ++ "]").toList =
      '[' :: ((Pattern.classBody chars).toList ++ [']']) := by
    simp
  rw [htext, readForm, readBrackets]
  · simp only [hread, Option.bind_eq_bind, Option.bind_some, membersOf_ofMember, membersIn]
  · exact fun body => classBody_ne_caret chars [] body

end EditorBridge.Editor
