import EditorBridge.Proofs.Json.SameData
import EditorBridge.Proofs.Tree.Rendition
/-!
What linking and rendering keep.  Apart from what describes containers, JSON holds the same data as what
is rendered of its value, whatever is under the fields that mark entries.  The root alone is a node
without a kind if its type field holds no text, and that field is lost
(`LinkedTree.toJson_keepsData`).
-/

set_option autoImplicit false

namespace EditorBridge

/-- Two values hold the same data but for what they say about containers. -/
def Json.KeepsData : Json → Json → Prop := Json.SameDataWithout isContainerField

namespace Conventions

variable {conventions : Conventions}

/-- Fields hold the same data under every name that is not dropped. -/
def KeepsFields (skipped : Option String) (fields others : List (String × Json)) : Prop :=
  ∀ name, drops skipped name = false →
    Option.Rel Json.KeepsData (Json.lookup fields name) (Json.lookup others name)

theorem lookup_of_textAt? {fields : List (String × Json)} {name text : String}
    (h : textAt? fields name = some text) : Json.lookup fields name = some (.string text) := by
  obtain ⟨value, hvalue, htext⟩ := Option.bind_eq_some_iff.mp h
  cases value with
  | string written =>
    rw [hvalue, Option.some.inj htext]
  | _ => cases htext

/-- An object keeps its data if the mark is written with the text that it holds. -/
theorem KeepsFields.object {fields others written : List (String × Json)} {mark : String}
    {text : Option String} (h : KeepsFields (some mark) fields others)
    (hwritten : Written mark text others written)
    (hmark : Json.lookup fields mark = text.map .string) :
    Json.KeepsData (.object fields) (.object written) := by
  refine Json.SameDataWithout.object fun key hkey => ?_
  by_cases hsame : key = mark
  · rw [hsame, hwritten.lookup_mark, hmark]
    cases text with
    | none => exact .none
    | some text => exact .some (.string text)
  · rw [hwritten.lookup_of_ne hsame hkey]
    exact h key (by simp [drops, hkey, hsame])

theorem KeepsFields.cons_of_dropped {skipped : Option String} {fields others : List (String × Json)}
    {name : String} (hname : drops skipped name = true) (h : KeepsFields skipped fields others)
    (value : Json) : KeepsFields skipped ((name, value) :: fields) others := by
  intro key hkey
  have hne : name ≠ key := by
    rintro rfl
    exact absurd (hname.symm.trans hkey) (by decide)
  rw [Json.lookup_cons, if_neg hne]
  exact h key hkey

theorem KeepsFields.cons {skipped : Option String} {fields others : List (String × Json)}
    {value other : Json} (hvalue : value.KeepsData other) (h : KeepsFields skipped fields others)
    (name : String) : KeepsFields skipped ((name, value) :: fields) ((name, other) :: others) := by
  intro key hkey
  rw [Json.lookup_cons, Json.lookup_cons]
  by_cases hsame : name = key
  · rw [if_pos hsame, if_pos hsame]
    exact .some hvalue
  · rw [if_neg hsame, if_neg hsame]
    exact h key hkey

theorem keepsData_composes : conventions.Composes (fun _ => Json.KeepsData)
    (fun _ => List.Forall₂ Json.KeepsData) (fun skipped _ => KeepsFields skipped) where
  null _ := .null
  bool _ := .bool
  number _ := .number
  string _ := .string
  array := .array
  reference hclass h hwritten :=
    h.object hwritten (lookup_of_textAt? (classify_eq_reference_iff.mp hclass))
  node hclass h hwritten :=
    h.object hwritten (lookup_of_textAt? (classify_eq_node_iff.mp hclass).2)
  record _ h _ := .object fun key hkey => h key (by simp [drops, hkey])
  nil _ := .nil
  cons := .cons
  noFields _ _ _ _ := .none
  dropped hname h := h.cons_of_dropped hname _
  kept _ hvalue h := h.cons hvalue _

/-! ## The root -/

/-- The type field of a root object is absent or holds text. -/
def MarksRoot (conventions : Conventions) (fields : List (String × Json)) : Prop :=
  ∀ value, Json.lookup fields conventions.typeField = some value → ∃ text, value = .string text

/-- The fields of a root object that are read: a type field only if it holds text. -/
def rootFields (conventions : Conventions) (fields : List (String × Json)) : List (String × Json) :=
  fields.filter fun field =>
    field.1 != conventions.typeField || (textAt? fields conventions.typeField).isSome

theorem marksRoot_iff {fields : List (String × Json)} :
    conventions.MarksRoot fields ↔ Json.lookup fields conventions.typeField =
      (textAt? fields conventions.typeField).map .string := by
  constructor
  · intro h
    cases hvalue : Json.lookup fields conventions.typeField with
    | none => rw [textAt?, hvalue]; rfl
    | some value =>
      obtain ⟨text, rfl⟩ := h value hvalue
      rw [textAt?, hvalue]
      rfl
  · intro h value hvalue
    rw [hvalue] at h
    obtain ⟨text, _, htext⟩ := Option.map_eq_some_iff.mp h.symm
    exact ⟨text, htext.symm⟩

theorem lookup_rootFields_of_ne (conventions : Conventions) (fields : List (String × Json))
    {key : String} (hkey : key ≠ conventions.typeField) :
    Json.lookup (conventions.rootFields fields) key = Json.lookup fields key := by
  rw [rootFields, Json.lookup_filter fun name => name != conventions.typeField ||
    (textAt? fields conventions.typeField).isSome, if_pos (by simp [hkey])]

theorem lookup_rootFields_mark (conventions : Conventions) (fields : List (String × Json)) :
    Json.lookup (conventions.rootFields fields) conventions.typeField =
      (textAt? fields conventions.typeField).map .string := by
  rw [rootFields, Json.lookup_filter fun name => name != conventions.typeField ||
    (textAt? fields conventions.typeField).isSome]
  cases htext : textAt? fields conventions.typeField with
  | none => rw [if_neg (by simp)]; rfl
  | some text => rw [if_pos (by simp), lookup_of_textAt? htext]; rfl

/-- What is written of a root holds the data of the fields that are read. -/
theorem KeepsFields.root {fields others written : List (String × Json)}
    (h : KeepsFields (some conventions.typeField) fields others)
    (hwritten : Written conventions.typeField (textAt? fields conventions.typeField) others written) :
    Json.KeepsData (.object (conventions.rootFields fields)) (.object written) := by
  have hread : KeepsFields (some conventions.typeField) (conventions.rootFields fields) others := by
    intro key hkey
    have hne : key ≠ conventions.typeField := by
      rintro rfl
      simp [drops] at hkey
    rw [conventions.lookup_rootFields_of_ne fields hne]
    exact h key hkey
  exact hread.object hwritten (conventions.lookup_rootFields_mark fields)

/-- What is written of a root holds the data of all its fields just if the root is marked. -/
theorem KeepsFields.root_iff {fields others written : List (String × Json)}
    (h : KeepsFields (some conventions.typeField) fields others)
    (marks : conventions.MarksKept)
    (hwritten : Written conventions.typeField (textAt? fields conventions.typeField) others written) :
    Json.KeepsData (.object fields) (.object written) ↔ conventions.MarksRoot fields := by
  constructor
  · intro hkeeps
    have hsome := hkeeps.lookup_isSome marks.typeField
    rw [hwritten.lookup_mark, Option.isSome_map] at hsome
    rw [marksRoot_iff]
    cases htext : textAt? fields conventions.typeField with
    | some text => exact lookup_of_textAt? htext
    | none =>
      rw [htext, Option.isSome_none, Option.isSome_eq_false_iff, Option.isNone_iff_eq_none] at hsome
      exact hsome
  · intro hmarked
    exact h.object hwritten (marksRoot_iff.mp hmarked)

end Conventions

namespace LinkedTree

theorem keepsData_of_built {tree : LinkedTree} (marks : tree.conventions.MarksKept)
    {fields : List (String × Json)} (unique : (Json.object fields).hasUniqueKeys = true)
    (hbuilt : tree.unlinked = tree.conventions.build fields) :
    Json.KeepsData (.object (tree.conventions.rootFields fields)) tree.toJson ∧
      (Json.KeepsData (.object fields) tree.toJson ↔ tree.conventions.MarksRoot fields) := by
  obtain ⟨others, written, hjson, hfields, hwritten⟩ :=
    composes_root Conventions.keepsData_composes marks unique hbuilt
  rw [hjson]
  exact ⟨hfields.root hwritten, hfields.root_iff marks hwritten⟩

/-- **Linking and rendering keep all data that is read**: everything but what describes containers and a
type field of the root that holds no text.  All data is kept just where there is no such field. -/
theorem toJson_keepsData (conventions : Conventions) (marks : conventions.MarksKept)
    (fields : List (String × Json)) (unique : (Json.object fields).hasUniqueKeys = true) :
    ∃ tree, ofJson conventions (.object fields) = .ok tree ∧
      Json.KeepsData (.object (conventions.rootFields fields)) tree.toJson ∧
      (Json.KeepsData (.object fields) tree.toJson ↔ conventions.MarksRoot fields) := by
  have hunlinked := (conventions.build fields).unlinked_link
  have hconventions : (conventions.build fields).link.conventions = conventions :=
    conventions_eq_of_unlinked_eq hunlinked
  have hkept := @keepsData_of_built (conventions.build fields).link
  rw [hconventions] at hkept
  exact ⟨_, ofJson_object conventions fields,
    hkept marks unique (hunlinked.trans (conventions.unlinked_build fields))⟩

theorem toJson_keepsData_nested :
    Conventions.MarksKept {} ∧ (Json.object nestedDocument).hasUniqueKeys = true ∧
      ∃ tree, ofJson {} (.object nestedDocument) = .ok tree ∧
        Json.KeepsData (.object (Conventions.rootFields {} nestedDocument)) tree.toJson ∧
        (Json.KeepsData (.object nestedDocument) tree.toJson ↔
          Conventions.MarksRoot {} nestedDocument) :=
  ⟨Conventions.marksKept_default, by decide,
    toJson_keepsData {} Conventions.marksKept_default nestedDocument (by decide)⟩

/-- A root with a number under its type field is rendered without that field. -/
theorem toJson_loses_number_of_root :
    (Json.object [("$type", .ofNat 5)]).hasUniqueKeys = true ∧
      ∃ tree, ofJson {} (.object [("$type", .ofNat 5)]) = .ok tree ∧
        Json.lookup [("$type", Json.ofNat 5)] "$type" = some (.ofNat 5) ∧ tree.toJson = .object [] ∧
        ¬ Json.KeepsData (.object [("$type", .ofNat 5)]) tree.toJson := by
  refine ⟨by decide, _, rfl, rfl, rfl, fun hkeeps => ?_⟩
  have hsome : (Json.lookup [("$type", Json.ofNat 5)] "$type").isSome =
      (Json.lookup ([] : List (String × Json)) "$type").isSome := hkeeps.lookup_isSome (by decide)
  exact absurd hsome (by decide)

end LinkedTree

end EditorBridge
