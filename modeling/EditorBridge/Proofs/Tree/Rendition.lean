import EditorBridge.Proofs.Tree.Containers
import EditorBridge.Proofs.Tree.Rendering
/-!
JSON against what is rendered of its value.  A relation between the two that passes from the parts to
the whole (`Conventions.Composes`) holds of every piece of JSON that was harvested into a tree
(`LinkedTree.composes_rendered`), and the fields of the root object are related to what is written of the root
(`LinkedTree.composes_root`).
-/

set_option autoImplicit false

namespace EditorBridge

namespace Harvest

variable {α β γ : Type}

/-- The number of entries harvested. -/
def entryCount (harvest : Harvest α) : Nat := harvest.nodes.length + harvest.references.length

theorem entryCount_combine (f : α → β → γ) (a : Harvest α) (b : Harvest β) :
    (Harvest.combine f a b).entryCount = a.entryCount + b.entryCount := by
  simp only [entryCount, combine, List.length_append]
  omega

theorem entryCount_node (id : NodeId) (kind : Option String) (properties : Harvest Properties) :
    (Harvest.node id kind properties).entryCount = properties.entryCount + 1 := by
  simp only [entryCount, node, List.length_cons]
  omega

theorem entryCount_reference (references : Nat) (path : String) (properties : Harvest Properties) :
    (Harvest.reference references path properties).entryCount = properties.entryCount + 1 := by
  simp only [entryCount, reference, List.length_append, List.length_singleton]
  omega

end Harvest

namespace Conventions

/-- The fields that mark entries do not pass for fields about containers, which are never read. -/
structure MarksKept (conventions : Conventions) : Prop where
  typeField : isContainerField conventions.typeField = false
  refField : isContainerField conventions.refField = false

theorem marksKept_default : MarksKept {} := ⟨by decide, by decide⟩

/-! ## What an object is -/

section Classes

variable {conventions : Conventions} {fields : List (String × Json)}

theorem classify_eq_reference_iff {path : String} :
    conventions.classify fields = .reference path ↔
      textAt? fields conventions.refField = some path := by
  rw [classify, textAt?]
  cases (Json.lookup fields conventions.refField).bind Json.asString? with
  | some other => simp
  | none =>
    cases (Json.lookup fields conventions.typeField).bind Json.asString? <;> simp

theorem classify_eq_node_iff {kind : String} :
    conventions.classify fields = .node kind ↔ textAt? fields conventions.refField = none ∧
      textAt? fields conventions.typeField = some kind := by
  rw [classify, textAt?, textAt?]
  cases (Json.lookup fields conventions.refField).bind Json.asString? with
  | some other => simp
  | none =>
    cases (Json.lookup fields conventions.typeField).bind Json.asString? <;> simp

end Classes

/-! ## The names of properties -/

/-- No property has a name that is dropped. -/
theorem harvestFields_kept (conventions : Conventions) (skipped : Option String) :
    ∀ (a : Frontier) (fields : List (String × Json)),
      ∀ property ∈ (conventions.harvestFields skipped a.nodes a.references fields).value,
        drops skipped property.1 = false
  | _, [], _, hmem => absurd hmem List.not_mem_nil
  | a, (name, value) :: rest, property, hmem => by
    cases hname : drops skipped name with
    | true =>
      rw [harvestFields_cons_of_dropped _ _ _ _ hname] at hmem
      exact harvestFields_kept conventions skipped a rest property hmem
    | false =>
      rw [harvestFields_cons_of_kept _ _ _ _ hname] at hmem
      rcases List.mem_cons.mp hmem with rfl | hmem
      · exact hname
      · exact harvestFields_kept conventions skipped _ rest property hmem

/-- Properties made of fields that do not repeat a key do not repeat a name. -/
theorem nodup_harvestFields (conventions : Conventions) (skipped : Option String) (a : Frontier)
    {fields : List (String × Json)} (h : (Json.object fields).hasUniqueKeys = true) :
    ((conventions.harvestFields skipped a.nodes a.references fields).value.map Prod.fst).Nodup :=
  ((Json.hasUniqueKeys_object _).mp h).1.sublist (conventions.harvestFields_keys_sublist _ _ _ _)

/-! ## From the parts to the whole -/

/-- A relation between JSON that is harvested at a frontier and other JSON, with relations between
items and between fields, passes from the parts to the whole. -/
structure Composes (conventions : Conventions) (r : Frontier → Json → Json → Prop)
    (rItems : Frontier → List Json → List Json → Prop)
    (rFields : Option String → Frontier → List (String × Json) → List (String × Json) → Prop) :
    Prop where
  null : ∀ a, r a .null .null
  bool : ∀ a value, r a (.bool value) (.bool value)
  number : ∀ a value, r a (.number value) (.number value)
  string : ∀ a value, r a (.string value) (.string value)
  array : ∀ {a items others}, rItems a items others → r a (.array items) (.array others)
  reference : ∀ {a fields path others written},
    conventions.classify fields = .reference path →
    rFields (some conventions.refField) a fields others →
    Written conventions.refField (some path) others written → r a (.object fields) (.object written)
  node : ∀ {a fields kind others written},
    conventions.classify fields = .node kind →
    rFields (some conventions.typeField) ⟨a.nodes + 1, a.references⟩ fields others →
    Written conventions.typeField (some kind) others written → r a (.object fields) (.object written)
  record : ∀ {a fields others}, conventions.classify fields = .record → rFields none a fields others →
    (others.map Prod.fst).Nodup → r a (.object fields) (.object others)
  nil : ∀ a, rItems a [] []
  cons : ∀ {a item other rest others}, r a item other →
    rItems ((conventions.harvest a.nodes a.references item).frontier a) rest others →
    rItems a (item :: rest) (other :: others)
  noFields : ∀ skipped a, rFields skipped a [] []
  dropped : ∀ {skipped a name value rest others}, drops skipped name = true →
    rFields skipped a rest others → rFields skipped a ((name, value) :: rest) others
  kept : ∀ {skipped a name value other rest others}, drops skipped name = false →
    r a value other →
    rFields skipped ((conventions.harvest a.nodes a.references value).frontier a) rest others →
    rFields skipped a ((name, value) :: rest) ((name, other) :: others)

end Conventions

namespace LinkedTree

open Conventions

variable {tree : LinkedTree} {r : Frontier → Json → Json → Prop}
  {rItems : Frontier → List Json → List Json → Prop}
  {rFields : Option String → Frontier → List (String × Json) → List (String × Json) → Prop}

section Object

variable {a : Frontier} {fields : List (String × Json)} {depth : Nat}

/-- An object that is a reference is related to the JSON of the reference. -/
theorem composes_reference (h : tree.conventions.Composes r rItems rFields)
    (marks : tree.conventions.MarksKept) (unique : (Json.object fields).hasUniqueKeys = true)
    {path : String} {id : ReferenceId} (hclass : tree.conventions.classify fields = .reference path)
    (hreference : tree.unlinked.reference? id = some ⟨path, (tree.conventions.harvestFields
      (some tree.conventions.refField) a.nodes a.references fields).value, none⟩)
    (hfields : rFields (some tree.conventions.refField) a fields
      (Value.rendered (tree.entryToJson depth) (tree.conventions.harvestFields
        (some tree.conventions.refField) a.nodes a.references fields).value)) :
    r a (.object fields) (tree.entryToJson (depth + 1) (.reference id)) := by
  obtain ⟨written, hjson, hwritten⟩ := entryToJson_reference hreference marks.refField
    (harvestFields_kept _ _ a fields) (nodup_harvestFields _ _ a unique) depth
  rw [hjson]
  exact h.reference hclass hfields hwritten

/-- An object that is a node is related to the JSON of the node. -/
theorem composes_node (h : tree.conventions.Composes r rItems rFields)
    (marks : tree.conventions.MarksKept) (unique : (Json.object fields).hasUniqueKeys = true)
    {kind : String} {id : NodeId} (hclass : tree.conventions.classify fields = .node kind)
    (hnode : tree.unlinked.node? id = some ⟨some kind, (tree.conventions.harvestFields
      (some tree.conventions.typeField) (a.nodes + 1) a.references fields).value, none⟩)
    (hfields : rFields (some tree.conventions.typeField) ⟨a.nodes + 1, a.references⟩ fields
      (Value.rendered (tree.entryToJson depth) (tree.conventions.harvestFields
        (some tree.conventions.typeField) (a.nodes + 1) a.references fields).value)) :
    r a (.object fields) (tree.entryToJson (depth + 1) (.node id)) := by
  obtain ⟨written, hjson, hwritten⟩ := entryToJson_node hnode marks.typeField
    (harvestFields_kept _ _ ⟨a.nodes + 1, a.references⟩ fields)
    (nodup_harvestFields _ _ ⟨a.nodes + 1, a.references⟩ unique) depth
  rw [hjson]
  exact h.node hclass hfields hwritten

/-- An object that is neither is related to the JSON of the record. -/
theorem composes_record (h : tree.conventions.Composes r rItems rFields)
    (unique : (Json.object fields).hasUniqueKeys = true)
    (hclass : tree.conventions.classify fields = .record)
    (hfields : rFields none a fields (Value.rendered (tree.entryToJson depth)
      (tree.conventions.harvestFields none a.nodes a.references fields).value)) :
    r a (.object fields) (.object (Value.fieldsToJson (tree.entryToJson depth) []
      (tree.conventions.harvestFields none a.nodes a.references fields).value)) := by
  have hnodup := nodup_harvestFields tree.conventions none a unique
  rw [← Value.rendered_keys (tree.entryToJson depth)] at hnodup
  rw [Value.fieldsToJson_eq_append (by simpa using hnodup), List.nil_append]
  exact h.record hclass hfields hnodup

end Object

-- The induction is on the source.  A depth is spent just where an entry is harvested, so a depth of as
-- many levels as there are entries in a piece of JSON renders all of it.
mutual
/-- JSON is related to what is rendered of its value. -/
theorem composes_rendered (h : tree.conventions.Composes r rItems rFields)
    (marks : tree.conventions.MarksKept) :
    ∀ (json : Json) (a : Frontier) (depth : Nat), json.hasUniqueKeys = true →
    (tree.conventions.harvest a.nodes a.references json).StoredIn tree.unlinked a →
    (tree.conventions.harvest a.nodes a.references json).entryCount ≤ depth →
    r a json
      ((tree.conventions.harvest a.nodes a.references json).value.toJson (tree.entryToJson depth))
  | .null, a, _, _, _, _ => h.null a
  | .bool value, a, _, _, _, _ => h.bool a value
  | .number value, a, _, _, _, _ => h.number a value
  | .string value, a, _, _, _, _ => h.string a value
  | .array items, a, depth, unique, hstored, hdepth => by
    rw [Conventions.harvest] at hstored hdepth ⊢
    exact h.array (composesItems_rendered h marks items a depth
      ((Json.hasUniqueKeys_array _).mp unique) hstored.of_map hdepth)
  | .object fields, a, depth, unique, hstored, hdepth => by
    have hvalues := ((Json.hasUniqueKeys_object _).mp unique).2
    rw [Conventions.harvest] at hstored hdepth ⊢
    cases hclass : tree.conventions.classify fields with
    | reference path =>
      simp only [hclass] at hstored hdepth ⊢
      rw [Harvest.entryCount_reference] at hdepth
      obtain ⟨depth, rfl⟩ : ∃ d, depth = d + 1 := ⟨depth - 1, by omega⟩
      obtain ⟨hreference, hproperties⟩ := hstored.of_reference
      have hfields := composesFields_rendered h marks fields (some tree.conventions.refField) a depth
        hvalues hproperties (Nat.le_of_succ_le_succ hdepth)
      exact composes_reference h marks unique hclass hreference hfields
    | node kind =>
      simp only [hclass] at hstored hdepth ⊢
      rw [Harvest.entryCount_node] at hdepth
      obtain ⟨depth, rfl⟩ : ∃ d, depth = d + 1 := ⟨depth - 1, by omega⟩
      obtain ⟨hnode, hproperties⟩ := hstored.of_node
      have hfields := composesFields_rendered h marks fields (some tree.conventions.typeField)
        ⟨a.nodes + 1, a.references⟩ depth hvalues hproperties (Nat.le_of_succ_le_succ hdepth)
      exact composes_node h marks unique hclass hnode hfields
    | record =>
      simp only [hclass] at hstored hdepth ⊢
      have hfields := composesFields_rendered h marks fields none a depth hvalues hstored.of_map hdepth
      exact composes_record h unique hclass hfields
termination_by structural json => json

theorem composesItems_rendered (h : tree.conventions.Composes r rItems rFields)
    (marks : tree.conventions.MarksKept) :
    ∀ (items : List Json) (a : Frontier) (depth : Nat), (∀ item ∈ items, item.hasUniqueKeys = true) →
    (tree.conventions.harvestItems a.nodes a.references items).StoredIn tree.unlinked a →
    (tree.conventions.harvestItems a.nodes a.references items).entryCount ≤ depth →
    rItems a items (Value.itemsToJson (tree.entryToJson depth)
      (tree.conventions.harvestItems a.nodes a.references items).value)
  | [], a, _, _, _, _ => h.nil a
  | item :: rest, a, depth, unique, hstored, hdepth => by
    obtain ⟨hitemUnique, hrestUnique⟩ := List.forall_mem_cons.mp unique
    rw [Conventions.harvestItems_cons] at hstored hdepth ⊢
    rw [Harvest.entryCount_combine] at hdepth
    obtain ⟨hitem, hrest⟩ := hstored.of_combine
    exact h.cons (composes_rendered h marks item a depth hitemUnique hitem (by omega))
      (composesItems_rendered h marks rest _ depth hrestUnique hrest (by omega))
termination_by structural items => items

theorem composesFields_rendered (h : tree.conventions.Composes r rItems rFields)
    (marks : tree.conventions.MarksKept) :
    ∀ (fields : List (String × Json)) (skipped : Option String) (a : Frontier) (depth : Nat),
    (∀ field ∈ fields, field.2.hasUniqueKeys = true) →
    (tree.conventions.harvestFields skipped a.nodes a.references fields).StoredIn tree.unlinked a →
    (tree.conventions.harvestFields skipped a.nodes a.references fields).entryCount ≤ depth →
    rFields skipped a fields (Value.rendered (tree.entryToJson depth)
      (tree.conventions.harvestFields skipped a.nodes a.references fields).value)
  | [], skipped, a, _, _, _, _ => h.noFields skipped a
  | (name, value) :: rest, skipped, a, depth, unique, hstored, hdepth => by
    obtain ⟨hvalueUnique, hrestUnique⟩ := List.forall_mem_cons.mp unique
    cases hname : drops skipped name with
    | true =>
      rw [harvestFields_cons_of_dropped _ _ _ _ hname] at hstored hdepth ⊢
      exact h.dropped hname
        (composesFields_rendered h marks rest skipped a depth hrestUnique hstored hdepth)
    | false =>
      rw [harvestFields_cons_of_kept _ _ _ _ hname] at hstored hdepth ⊢
      rw [Harvest.entryCount_combine] at hdepth
      obtain ⟨hvalue, hrest⟩ := hstored.of_combine
      exact h.kept hname (composes_rendered h marks value a depth hvalueUnique hvalue (by omega))
        (composesFields_rendered h marks rest skipped _ depth hrestUnique hrest (by omega))
termination_by structural fields => fields
end

/-- What is written of the root of a tree: its mark, and properties to which the fields of the object
that the tree was built from are related. -/
theorem composes_root (h : tree.conventions.Composes r rItems rFields)
    (marks : tree.conventions.MarksKept) {fields : List (String × Json)}
    (unique : (Json.object fields).hasUniqueKeys = true)
    (hbuilt : tree.unlinked = tree.conventions.build fields) :
    ∃ others written, tree.toJson = .object written ∧
      rFields (some tree.conventions.typeField) ⟨1, 0⟩ fields others ∧
      Written tree.conventions.typeField (textAt? fields tree.conventions.typeField) others written := by
  have hvalues := ((Json.hasUniqueKeys_object _).mp unique).2
  have hstored := tree.conventions.build_storedIn fields
  rw [← hbuilt] at hstored
  obtain ⟨hnode, hproperties⟩ := hstored.of_node
  have hcount : tree.entryCount =
      (tree.conventions.harvestFields (some tree.conventions.typeField) 1 0 fields).entryCount + 1 := by
    rw [← entryCount_unlinked, hbuilt]
    exact Harvest.entryCount_node ⟨0⟩ (textAt? fields tree.conventions.typeField) _
  have hroot : tree.root = ⟨0⟩ := by
    have hroot : tree.unlinked.root = ⟨0⟩ := by rw [hbuilt]; rfl
    exact hroot
  have hfields := composesFields_rendered h marks fields (some tree.conventions.typeField) ⟨1, 0⟩ _
    hvalues hproperties (Nat.le_refl _)
  obtain ⟨written, hjson, hwritten⟩ := entryToJson_node hnode marks.typeField
    (harvestFields_kept _ _ ⟨1, 0⟩ _) (nodup_harvestFields _ _ ⟨1, 0⟩ unique)
    (tree.conventions.harvestFields (some tree.conventions.typeField) 1 0 fields).entryCount
  rw [toJson, hcount, hroot]
  exact ⟨_, written, hjson, hfields, hwritten⟩

end LinkedTree

end EditorBridge
