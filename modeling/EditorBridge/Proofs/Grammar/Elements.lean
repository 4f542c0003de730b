import EditorBridge.Grammar.Keywords
/-!
What occurs in an element.  `Element.Contains` is occurrence at any depth; a list that is gathered from an
element and all its parts holds just what the elements that occur in it contribute
(`Element.mem_gathered_iff`), keyword literals and called rules alike.
-/

set_option autoImplicit false

namespace EditorBridge

namespace Element

/-- The elements directly inside an element. -/
def parts : Element → List Element
  | assignment _ terminal => [terminal]
  | group elements | alternatives elements | unorderedGroup elements => elements
  | crossReference terminal => terminal.toList
  | keyword _ | ruleCall _ | action => []

/-- Occurrence at any depth, the element itself included. -/
inductive Contains : Element → Element → Prop
  | self (element : Element) : Contains element element
  | inside {element part sought : Element} (h : part ∈ element.parts) (hpart : Contains part sought) :
      Contains element sought

theorem sizeOf_lt_of_mem_parts {element part : Element} (h : part ∈ element.parts) :
    sizeOf part < sizeOf element := by
  cases element with
  | assignment feature terminal =>
    rw [List.mem_singleton.mp h]
    simp only [assignment.sizeOf_spec]
    omega
  | group elements | alternatives elements | unorderedGroup elements =>
    rw [parts] at h
    have hlt := List.sizeOf_lt_of_mem h
    simp only [group.sizeOf_spec, alternatives.sizeOf_spec, unorderedGroup.sizeOf_spec]
    omega
  | crossReference terminal =>
    cases terminal with
    | none => exact absurd h List.not_mem_nil
    | some terminal =>
      rw [List.mem_singleton.mp h]
      simp only [crossReference.sizeOf_spec, Option.some.sizeOf_spec]
      omega
  | keyword _ | ruleCall _ | action => exact absurd h List.not_mem_nil

/-! ## Gathering from all parts -/

section Gathering

variable {α : Type} {own gathered : Element → List α}

/-- What is gathered from an element and its parts comes from the elements that occur in it. -/
theorem mem_gathered_iff
    (h : ∀ element, gathered element = own element ++ element.parts.flatMap gathered)
    {x : α} (element : Element) :
    x ∈ gathered element ↔ ∃ sought, element.Contains sought ∧ x ∈ own sought := by
  constructor
  · intro hx
    rw [h, List.mem_append, List.mem_flatMap] at hx
    rcases hx with hown | ⟨part, hpart, hx⟩
    · exact ⟨element, .self element, hown⟩
    · have hlt := sizeOf_lt_of_mem_parts hpart
      obtain ⟨sought, hcontains, hown⟩ := (mem_gathered_iff h part).mp hx
      exact ⟨sought, .inside hpart hcontains, hown⟩
  · rintro ⟨sought, hcontains, hown⟩
    induction hcontains with
    | self element =>
      rw [h]
      exact List.mem_append_left _ hown
    | inside hpart _ ih =>
      rw [h]
      exact List.mem_append_right _ (List.mem_flatMap.mpr ⟨_, hpart, ih hown⟩)
termination_by element

end Gathering

/-- The literal that an element is, if it is a keyword. -/
def literal? : Element → Option String
  | keyword value => some value
  | _ => none

/-- The rule that an element calls, if it is a call of a rule that exists. -/
def called? : Element → Option RuleHandle
  | ruleCall rule => rule
  | _ => none

theorem keywordsList_eq_flatMap (elements : List Element) :
    keywordsList elements = elements.flatMap keywords := by
  induction elements with
  | nil => rfl
  | cons element rest ih => rw [keywordsList, ih, List.flatMap_cons]

theorem callsList_eq_flatMap (elements : List Element) :
    callsList elements = elements.flatMap calls := by
  induction elements with
  | nil => rfl
  | cons element rest ih => rw [callsList, ih, List.flatMap_cons]

theorem keywords_eq (element : Element) :
    element.keywords = element.literal?.toList ++ element.parts.flatMap keywords := by
  cases element with
  | group elements | alternatives elements | unorderedGroup elements =>
    simp [keywords, parts, literal?, keywordsList_eq_flatMap]
  | crossReference terminal => cases terminal <;> simp [keywords, keywordsOption, parts, literal?]
  | _ => simp [keywords, parts, literal?]

theorem calls_eq (element : Element) :
    element.calls = element.called?.toList ++ element.parts.flatMap calls := by
  cases element with
  | group elements | alternatives elements | unorderedGroup elements =>
    simp [calls, parts, called?, callsList_eq_flatMap]
  | crossReference terminal => cases terminal <;> simp [calls, callsOption, parts, called?]
  | _ => simp [calls, parts, called?]

theorem mem_keywords_iff {element : Element} {literal : String} :
    literal ∈ element.keywords ↔ element.Contains (.keyword literal) := by
  rw [mem_gathered_iff keywords_eq]
  constructor
  · rintro ⟨sought, hcontains, hliteral⟩
    cases sought with
    | keyword value =>
      rw [← List.mem_singleton.mp hliteral] at hcontains
      exact hcontains
    | _ => exact absurd hliteral List.not_mem_nil
  · intro hcontains
    exact ⟨_, hcontains, List.mem_singleton_self literal⟩

theorem mem_calls_iff {element : Element} {handle : RuleHandle} :
    handle ∈ element.calls ↔ element.Contains (.ruleCall (some handle)) := by
  rw [mem_gathered_iff calls_eq]
  constructor
  · rintro ⟨sought, hcontains, hcalled⟩
    cases sought with
    | ruleCall rule =>
      have hrule : rule = some handle := Option.mem_toList.mp hcalled
      rw [hrule] at hcontains
      exact hcontains
    | _ => exact absurd hcalled List.not_mem_nil
  · intro hcontains
    exact ⟨_, hcontains, List.mem_singleton_self handle⟩

end Element

end EditorBridge
