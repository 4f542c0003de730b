import EditorBridge.Proofs.Tokenizer.Editor
import Mathlib.Data.List.Nodup
/-!
Character classes.  Whatever is in a class is read: a closing bracket ends it, a caret at its front negates it, a
bare dash between two characters makes a range of them, and a backslash makes the next character stand for itself
or, if that is alphanumeric, for characters of the engine's choice.  The body of a class that is made for a text is
read as the distinct characters of the text, each once and in the order in which they are first seen, and as
nothing else (`classBody_denotes`).
-/

set_option autoImplicit false

namespace EditorBridge.Editor

/-! ## Distinct characters -/

/-- The distinct characters of a text, in the order in which they are first seen. -/
structure FirstSeen (members text : List Char) : Prop where
  once : ∀ c ∈ text, members.count c = 1
  only : ∀ c ∈ members, c ∈ text
  ordered : members.Pairwise fun a b => text.idxOf a < text.idxOf b

theorem FirstSeen.mem_iff {members text : List Char} (h : FirstSeen members text) {c : Char} :
    c ∈ members ↔ c ∈ text :=
  ⟨h.only c, fun hc => List.count_pos_iff.mp (by rw [h.once c hc]; exact Nat.one_pos)⟩

theorem pairwise_distinct (seen chars : List Char) :
    (Pattern.distinct seen chars).Pairwise fun a b => chars.idxOf a < chars.idxOf b := by
  induction chars generalizing seen with
  | nil => exact .nil
  | cons first rest ih =>
    -- What is seen before the rest of the text is not listed again, so all that is listed moves by one place.
    have hne : ∀ {before : List Char}, first ∈ before → ∀ c ∈ Pattern.distinct before rest, first ≠ c := by
      rintro before hfirst c hc rfl
      exact (mem_distinct.mp hc).2 hfirst
    have hrest : ∀ {before : List Char}, first ∈ before →
        (Pattern.distinct before rest).Pairwise fun a b => (first :: rest).idxOf a < (first :: rest).idxOf b := by
      intro before hfirst
      refine (ih before).imp_of_mem fun {a b} ha hb hlt => ?_
      rw [List.idxOf_cons_ne _ (hne hfirst a ha), List.idxOf_cons_ne _ (hne hfirst b hb)]
      exact Nat.succ_lt_succ hlt
    rw [Pattern.distinct]
    by_cases hseen : seen.contains first = true
    · rw [if_pos hseen]
      exact hrest (List.contains_iff_mem.mp hseen)
    · rw [if_neg hseen]
      refine List.pairwise_cons.mpr ⟨fun c hc => ?_, hrest List.mem_cons_self⟩
      rw [List.idxOf_cons_self, List.idxOf_cons_ne _ (hne List.mem_cons_self c hc)]
      exact Nat.succ_pos _

theorem firstSeen_distinct (text : List Char) : FirstSeen (Pattern.distinct [] text) text := by
  have hordered := pairwise_distinct [] text
  have hnodup : (Pattern.distinct [] text).Nodup :=
    hordered.imp fun hlt heq => absurd (heq ▸ hlt) (Nat.lt_irrefl _)
  exact {
    once := fun c hc => List.count_eq_one_of_mem hnodup (mem_distinct_nil.mpr hc)
    only := fun c hc => mem_distinct_nil.mp hc
    ordered := hordered }

/-! ## Classes -/

/-- What is between the brackets of a class. -/
inductive ClassItem
  | member (part : Member)
  /-- An escape that stands for characters of the engine's choice. -/
  | escape (letter : Char)
deriving DecidableEq

/-- Whether a character belongs to an item, where `chosen` are the characters that an escape stands for. -/
def ClassItem.has (chosen : Char → Char → Bool) : ClassItem → Char → Bool
  | member part, c => part.has c
  | escape letter, c => chosen letter c

/-- A class as it is read. -/
structure CharacterClass where
  negated : Bool
  items : List ClassItem
deriving DecidableEq

namespace CharacterClass

/-- The class that lists single characters. -/
def ofChars (negated : Bool) (chars : List Char) : CharacterClass :=
  ⟨negated, chars.map fun c => .member (.char c)⟩

def has (chosen : Char → Char → Bool) (charClass : CharacterClass) (c : Char) : Bool :=
  charClass.items.any (·.has chosen c) != charClass.negated

end CharacterClass

namespace Written

/-- Whether a sign of a class stands for characters of the engine's choice. -/
def isEscape (sign : Written) : Bool := !sign.bare && Character.isAlphanumeric sign.char

/-- What a sign of a class stands for on its own. -/
def item (sign : Written) : ClassItem :=
  if sign.isEscape then .escape sign.char else .member (.char sign.char)

end Written

/-- What the signs of a class stand for. -/
def itemsOf : List Written → List ClassItem
  | first :: dash :: last :: rest =>
    if dash = ⟨'-', true⟩ && !first.isEscape && !last.isEscape then
      .member (.range first.char last.char) :: itemsOf rest
    else first.item :: itemsOf (dash :: last :: rest)
  | first :: rest => first.item :: itemsOf rest
  | [] => []

/-- The signs of a class up to its closing bracket, and what follows it. -/
def readSigns : List Char → Option (List Written × List Char)
  | [] => none
  | ']' :: rest => some ([], rest)
  | '\\' :: c :: rest => (readSigns rest).map fun (signs, after) => (⟨c, false⟩ :: signs, after)
  | c :: rest => (readSigns rest).map fun (signs, after) => (⟨c, true⟩ :: signs, after)

/-- The signs of a class behind its opening bracket and its caret.  Engines differ in a closing bracket that comes
first: with `bracketFirst` it is a sign of the class, else it ends the class. -/
def readBody (bracketFirst : Bool) : List Char → Option (List Written × List Char)
  | ']' :: rest =>
    if bracketFirst then (readSigns rest).map fun (signs, after) => (⟨']', true⟩ :: signs, after)
    else some ([], rest)
  | body => readSigns body

/-- Reads a class at the front of a pattern, and what follows it. -/
def CharacterClass.read (bracketFirst : Bool) : List Char → Option (CharacterClass × List Char)
  | '[' :: '^' :: body => (readBody bracketFirst body).map fun (signs, after) => (⟨true, itemsOf signs⟩, after)
  | '[' :: body => (readBody bracketFirst body).map fun (signs, after) => (⟨false, itemsOf signs⟩, after)
  | _ => none

/-! ## Classes without escapes -/

/-- Where the reader that refuses escapes does not refuse a class, there are none in it. -/
theorem readSigns_of_readClass {text after : List Char} {signs : List Written}
    (h : readClass text = some (signs, after)) :
    readSigns text = some (signs, after) ∧ ∀ sign ∈ signs, sign.isEscape = false := by
  fun_induction readClass text generalizing signs with
  | case1 => contradiction
  | case2 rest =>
    cases h
    exact ⟨rfl, fun sign hsign => absurd hsign List.not_mem_nil⟩
  | case3 => contradiction
  | case4 c rest hc ih =>
    obtain ⟨⟨more, _⟩, hmore, heq⟩ := Option.map_eq_some_iff.mp h
    cases heq
    obtain ⟨hread, hplain⟩ := ih hmore
    have hfirst : Written.isEscape ⟨c, false⟩ = false := by simp [Written.isEscape, hc]
    exact ⟨by rw [readSigns, hread, Option.map_some], List.forall_mem_cons.mpr ⟨hfirst, hplain⟩⟩
  | case5 c rest hbracket hbackslash ih =>
    obtain ⟨⟨more, _⟩, hmore, heq⟩ := Option.map_eq_some_iff.mp h
    cases heq
    obtain ⟨hread, hplain⟩ := ih hmore
    refine ⟨?_, List.forall_mem_cons.mpr ⟨rfl, hplain⟩⟩
    rw [readSigns, hread, Option.map_some]
    · exact hbracket
    · exact hbackslash

theorem Written.item_of_not_isEscape {sign : Written} (h : sign.isEscape = false) :
    sign.item = .member (.char sign.char) := if_neg (by rw [h]; exact Bool.false_ne_true)

/-- Signs that are no escapes are single characters and ranges. -/
theorem itemsOf_eq_map {signs : List Written} (h : ∀ sign ∈ signs, sign.isEscape = false) :
    itemsOf signs = (membersOf signs).map .member := by
  fun_induction membersOf signs with
  | case1 first last rest ih =>
    obtain ⟨hfirst, hmore⟩ := List.forall_mem_cons.mp h
    obtain ⟨hlast, hrest⟩ := List.forall_mem_cons.mp (List.forall_mem_cons.mp hmore).2
    rw [itemsOf, hfirst, hlast, ih hrest]
    rfl
  | case2 first dash last rest hdash ih =>
    obtain ⟨hfirst, hmore⟩ := List.forall_mem_cons.mp h
    rw [itemsOf, if_neg (by simp [hdash]), ih hmore, Written.item_of_not_isEscape hfirst, List.map_cons]
  | case3 first rest hshort ih =>
    obtain ⟨hfirst, hmore⟩ := List.forall_mem_cons.mp h
    rw [itemsOf, ih hmore, Written.item_of_not_isEscape hfirst, List.map_cons]
    exact hshort
  | case4 => rfl

/-! ## Classes of a text -/

/-- What is between the brackets of a class lists characters and nothing else: the class ends at its bracket,
whatever comes behind it, and is negated just if a caret is put in front. -/
structure Lists (body : String) (members : List Char) : Prop where
  inside : ∀ bracketFirst rest, CharacterClass.read bracketFirst (("[" ++ body ++ "]").toList ++ rest) =
    some (.ofChars false members, rest)
  outside : ∀ bracketFirst rest, CharacterClass.read bracketFirst (("[^" ++ body ++ "]").toList ++ rest) =
    some (.ofChars true members, rest)

theorem CharacterClass.read_inside {bracketFirst : Bool} {body after : List Char} {signs : List Written}
    (hcaret : ∀ rest, body ≠ '^' :: rest) (h : readBody bracketFirst body = some (signs, after)) :
    read bracketFirst ('[' :: body) = some (⟨false, itemsOf signs⟩, after) := by
  rw [read, h]
  · rfl
  · exact hcaret

theorem CharacterClass.read_outside {bracketFirst : Bool} {body after : List Char} {signs : List Written}
    (h : readBody bracketFirst body = some (signs, after)) :
    read bracketFirst ('[' :: '^' :: body) = some (⟨true, itemsOf signs⟩, after) := by
  rw [read, h]
  rfl

theorem readBody_classBody {chars : String} (hne : chars ≠ "") (bracketFirst : Bool) (rest : List Char) :
    ∃ signs, readBody bracketFirst ((Pattern.classBody chars).toList ++ ']' :: rest) = some (signs, rest) ∧
      itemsOf signs = (Pattern.distinct [] chars.toList).map fun c => .member (.char c) := by
  obtain ⟨hread, hplain⟩ := readSigns_of_readClass (readClass_classBody chars rest)
  obtain ⟨sign, after, hbody, -, hbracket⟩ := exists_classBody_cons hne
  refine ⟨(Pattern.distinct [] chars.toList).map .ofMember, ?_, ?_⟩
  · rw [← hread, hbody, List.cons_append, readBody]
    exact fun body hsame => hbracket (List.cons.inj hsame).1
  · rw [itemsOf_eq_map hplain, membersOf_ofMember, List.map_map]
    rfl

theorem lists_classBody {chars : String} (hne : chars ≠ "") :
    Lists (Pattern.classBody chars) (Pattern.distinct [] chars.toList) := by
  constructor
  · intro bracketFirst rest
    obtain ⟨signs, hread, hitems⟩ := readBody_classBody hne bracketFirst rest
    have htext : ("[" ++ Pattern.classBody chars ++ "]").toList ++ rest =
        '[' :: ((Pattern.classBody chars).toList ++ ']' :: rest) := by simp
    rw [htext, CharacterClass.read_inside (classBody_ne_caret chars rest) hread, hitems, CharacterClass.ofChars]
  · intro bracketFirst rest
    obtain ⟨signs, hread, hitems⟩ := readBody_classBody hne bracketFirst rest
    have htext : ("[^" ++ Pattern.classBody chars ++ "]").toList ++ rest =
        '[' :: '^' :: ((Pattern.classBody chars).toList ++ ']' :: rest) := by simp
    rw [htext, CharacterClass.read_outside hread, hitems, CharacterClass.ofChars]

theorem CharacterClass.has_ofChars (chosen : Char → Char → Bool) (negated : Bool) (chars : List Char) (c : Char) :
    (ofChars negated chars).has chosen c = (chars.contains c != negated) := by
  rw [← accepts_chars, accepts, has, ofChars, List.any_map, List.any_map]
  rfl

/-- **A class made for a text denotes just its characters**: the class ends at its closing bracket, with no range,
negation or escape of a class in it, and lists the distinct characters of the text once each in the order in which
they are first seen; so it matches exactly these, and with a caret exactly all others. -/
theorem classBody_denotes {text : String} (hne : text ≠ "") :
    ∃ members, FirstSeen members text.toList ∧ Lists (Pattern.classBody text) members ∧
      ∀ chosen c,
        ((CharacterClass.ofChars false members).has chosen c = true ↔ c ∈ text.toList) ∧
        ((CharacterClass.ofChars true members).has chosen c = true ↔ c ∉ text.toList) := by
  have hseen := firstSeen_distinct text.toList
  refine ⟨_, hseen, lists_classBody hne, fun chosen c => ?_⟩
  rw [← hseen.mem_iff, CharacterClass.has_ofChars, CharacterClass.has_ofChars]
  simp

/-- All signs that mean something in a class, next to characters that they could join. -/
theorem classBody_denotes_signs : "a-z^]\\d-a" ≠ "" ∧
    ∃ members, FirstSeen members "a-z^]\\d-a".toList ∧ Lists (Pattern.classBody "a-z^]\\d-a") members ∧
      ∀ chosen c,
        ((CharacterClass.ofChars false members).has chosen c = true ↔ c ∈ "a-z^]\\d-a".toList) ∧
        ((CharacterClass.ofChars true members).has chosen c = true ↔ c ∉ "a-z^]\\d-a".toList) :=
  ⟨by decide, classBody_denotes (by decide)⟩

/-- In a class that is not made so, signs mean what they mean: a caret, a bracket that comes first, a range, an
escape, and the bracket at the end. -/
example : CharacterClass.read true "[^]a-z\\d]-a]".toList =
    some (⟨true, [.member (.char ']'), .member (.range 'a' 'z'), .escape 'd']⟩, "-a]".toList) := by decide

/-- Where a bracket that comes first is a sign of the class, nothing ends the class of no characters. -/
example : CharacterClass.read true ("[" ++ Pattern.classBody "" ++ "]").toList = none := rfl

end EditorBridge.Editor
