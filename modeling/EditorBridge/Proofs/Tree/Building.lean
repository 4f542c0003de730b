import EditorBridge.Proofs.Json.Keys
import EditorBridge.Proofs.Tree.Ownership
/-!
Trees that are built from JSON.  They have neither containers nor targets yet (`unlinked_build`), no
node repeats a property (`nodup_properties_build`), and since the arenas hold what was harvested in the
order of the handles (`Harvest.StoredIn`), the tree is laid out from its root (`build_laidOut`).
-/

set_option autoImplicit false

namespace EditorBridge

/-! ## What holds of everything harvested -/

/-- Something holds of all nodes harvested, and something of all references. -/
structure Harvest.Forall {α : Type} (p : Node → Prop) (q : Reference → Prop) (harvest : Harvest α) :
    Prop where
  nodes : ∀ node ∈ harvest.nodes, p node
  references : ∀ reference ∈ harvest.references, q reference

namespace Harvest.Forall

variable {α β γ : Type} {p : Node → Prop} {q : Reference → Prop}

theorem plain (value : α) : (Harvest.plain value).Forall p q :=
  ⟨fun _ h => absurd h List.not_mem_nil, fun _ h => absurd h List.not_mem_nil⟩

theorem map {harvest : Harvest α} (h : harvest.Forall p q) (f : α → β) :
    (harvest.map f).Forall p q := ⟨h.nodes, h.references⟩

theorem combine {a : Harvest α} {b : Harvest β} (ha : a.Forall p q) (hb : b.Forall p q)
    (f : α → β → γ) : (Harvest.combine f a b).Forall p q where
  nodes node h := (List.mem_append.mp h).elim (ha.nodes node) (hb.nodes node)
  references reference h :=
    (List.mem_append.mp h).elim (ha.references reference) (hb.references reference)

theorem node {properties : Harvest Properties} (h : properties.Forall p q) {kind : Option String}
    (hnode : p ⟨kind, properties.value, none⟩) (id : NodeId) :
    (Harvest.node id kind properties).Forall p q := by
  refine ⟨fun node hmem => ?_, h.references⟩
  rcases List.mem_cons.mp hmem with rfl | hmem
  · exact hnode
  · exact h.nodes node hmem

theorem reference {properties : Harvest Properties} (h : properties.Forall p q) {path : String}
    (hreference : q ⟨path, properties.value, none⟩) (references : Nat) :
    (Harvest.reference references path properties).Forall p q := by
  refine ⟨h.nodes, fun reference hmem => ?_⟩
  rcases List.mem_append.mp hmem with hmem | hmem
  · exact h.references reference hmem
  · rw [List.mem_singleton.mp hmem]
    exact hreference

end Harvest.Forall

namespace Conventions

/-- What passes from values to their parts, and from the objects to the nodes and references made of
them, holds of all that is harvested. -/
structure Inherits (conventions : Conventions) (k : Json → Prop) (p : Node → Prop)
    (q : Reference → Prop) : Prop where
  items : ∀ items, k (.array items) → ∀ item ∈ items, k item
  fields : ∀ fields, k (.object fields) → ∀ field ∈ fields, k field.2
  node : ∀ fields, k (.object fields) → ∀ kind skipped nodes references,
    p ⟨kind, (conventions.harvestFields skipped nodes references fields).value, none⟩
  reference : ∀ fields, k (.object fields) → ∀ path skipped nodes references,
    q ⟨path, (conventions.harvestFields skipped nodes references fields).value, none⟩

section Forall

variable {conventions : Conventions} {k : Json → Prop} {p : Node → Prop} {q : Reference → Prop}

mutual
theorem Inherits.harvest (h : conventions.Inherits k p q) : ∀ (nodes references : Nat) (json : Json),
    k json → (conventions.harvest nodes references json).Forall p q
  | _, _, .null, _ | _, _, .bool _, _ | _, _, .number _, _ | _, _, .string _, _ => .plain _
  | nodes, references, .array items, hk => by
    rw [Conventions.harvest]
    exact (Inherits.harvestItems h nodes references items (h.items items hk)).map _
  | nodes, references, .object fields, hk => by
    rw [Conventions.harvest]
    split
    · exact (Inherits.harvestFields h _ _ _ fields (h.fields fields hk)).reference
        (h.reference fields hk _ _ _ _) _
    · exact (Inherits.harvestFields h _ _ _ fields (h.fields fields hk)).node
        (h.node fields hk _ _ _ _) _
    · exact (Inherits.harvestFields h _ _ _ fields (h.fields fields hk)).map _
termination_by structural _ _ json => json

theorem Inherits.harvestItems (h : conventions.Inherits k p q) :
    ∀ (nodes references : Nat) (items : List Json), (∀ item ∈ items, k item) →
      (conventions.harvestItems nodes references items).Forall p q
  | _, _, [], _ => .plain _
  | nodes, references, item :: rest, hk => by
    rw [Conventions.harvestItems]
    exact (Inherits.harvest h _ _ item (hk item List.mem_cons_self)).combine
      (Inherits.harvestItems h _ _ rest fun other hmem => hk other (List.mem_cons_of_mem _ hmem)) _
termination_by structural _ _ items => items

theorem Inherits.harvestFields (h : conventions.Inherits k p q) :
    ∀ (skipped : Option String) (nodes references : Nat) (fields : List (String × Json)),
      (∀ field ∈ fields, k field.2) →
      (conventions.harvestFields skipped nodes references fields).Forall p q
  | _, _, _, [], _ => .plain _
  | skipped, nodes, references, (name, value) :: rest, hk => by
    have hrest : ∀ field ∈ rest, k field.2 := fun field hmem => hk field (List.mem_cons_of_mem _ hmem)
    rw [Conventions.harvestFields]
    split
    · exact Inherits.harvestFields h _ _ _ rest hrest
    · exact (Inherits.harvest h _ _ value (hk (name, value) List.mem_cons_self)).combine
        (Inherits.harvestFields h _ _ _ rest hrest) _
termination_by structural _ _ _ fields => fields
end

/-- The text under a name. -/
def textAt? (fields : List (String × Json)) (name : String) : Option String :=
  (Json.lookup fields name).bind Json.asString?

/-- What becomes of a root object. -/
def harvestRoot (conventions : Conventions) (fields : List (String × Json)) : Harvest Value :=
  .node ⟨0⟩ (textAt? fields conventions.typeField)
    (conventions.harvestFields (some conventions.typeField) 1 0 fields)

theorem Inherits.harvestRoot (h : conventions.Inherits k p q) {fields : List (String × Json)}
    (hk : k (.object fields)) : (conventions.harvestRoot fields).Forall p q :=
  (h.harvestFields _ _ _ fields (h.fields fields hk)).node (h.node fields hk _ _ _ _) _

end Forall

/-- Nothing that is built has a container or a target yet. -/
theorem unlinked_build (conventions : Conventions) (fields : List (String × Json)) :
    (conventions.build fields).unlinked = conventions.build fields := by
  have hinherits : conventions.Inherits (fun _ => True) (fun node => node.unlinked = node)
      (fun reference => reference.unlinked = reference) :=
    ⟨fun _ _ _ _ => trivial, fun _ _ _ _ => trivial, fun _ _ _ _ _ _ => rfl, fun _ _ _ _ _ _ => rfl⟩
  have h := @Inherits.harvestRoot _ _ _ _ hinherits fields trivial
  have hnodes := (List.map_congr_left h.nodes).trans (List.map_id _)
  have hreferences := (List.map_congr_left h.references).trans (List.map_id _)
  simp only [harvestRoot, textAt?] at hnodes hreferences
  simp only [build, LinkedTree.unlinked, List.map_toArray, hnodes, hreferences]

theorem harvestFields_keys_sublist (conventions : Conventions) (skipped : Option String) :
    ∀ (nodes references : Nat) (fields : List (String × Json)),
      ((conventions.harvestFields skipped nodes references fields).value.map Prod.fst).Sublist
        (fields.map Prod.fst)
  | _, _, [] => .slnil
  | nodes, references, (name, value) :: rest => by
    rw [harvestFields]
    split
    · exact (harvestFields_keys_sublist conventions skipped _ _ rest).cons _
    · exact (harvestFields_keys_sublist conventions skipped _ _ rest).cons_cons _

/-- Where no object repeats a key, no node repeats a property. -/
theorem nodup_properties_build (conventions : Conventions) {fields : List (String × Json)}
    (unique : (Json.object fields).hasUniqueKeys = true) {id : NodeId} {node : Node}
    (h : (conventions.build fields).node? id = some node) :
    (node.properties.map Prod.fst).Nodup := by
  have hinherits : conventions.Inherits (fun json => json.hasUniqueKeys = true)
      (fun node => (node.properties.map Prod.fst).Nodup) (fun _ => True) :=
    ⟨fun _ hk => (Json.hasUniqueKeys_array _).mp hk,
      fun _ hk => ((Json.hasUniqueKeys_object _).mp hk).2,
      fun _ hk _ _ _ _ =>
        ((Json.hasUniqueKeys_object _).mp hk).1.sublist (harvestFields_keys_sublist _ _ _ _ _),
      fun _ _ _ _ _ _ => trivial⟩
  have hnodes := (hinherits.harvestRoot unique).nodes
  have hmem : node ∈ (conventions.build fields).nodes.toList :=
    Array.mem_toList_iff.mpr (Array.mem_of_getElem? h)
  exact hnodes node hmem

end Conventions

/-! ## Where the harvest is stored -/

namespace Harvest

variable {α β γ : Type} {tree : LinkedTree} {a : Frontier}

/-- The arenas hold what was harvested, from a frontier on. -/
structure StoredIn (harvest : Harvest α) (tree : LinkedTree) (a : Frontier) : Prop where
  nodes : harvest.nodes <+: tree.nodes.toList.drop a.nodes
  references : harvest.references <+: tree.references.toList.drop a.references

/-- The frontier after what was harvested. -/
def frontier (harvest : Harvest α) (a : Frontier) : Frontier :=
  ⟨a.nodes + harvest.nodes.length, a.references + harvest.references.length⟩

theorem prefix_drop_append {items first second : List α} {start : Nat}
    (h : first ++ second <+: items.drop start) :
    first <+: items.drop start ∧ second <+: items.drop (start + first.length) := by
  obtain ⟨rest, hrest⟩ := h
  rw [List.append_assoc] at hrest
  refine ⟨⟨second ++ rest, hrest⟩, rest, ?_⟩
  rw [← List.drop_drop, ← hrest, List.drop_left]

theorem prefix_drop_cons {items second : List α} {first : α} {start : Nat}
    (h : first :: second <+: items.drop start) :
    items[start]? = some first ∧ second <+: items.drop (start + 1) := by
  obtain ⟨rest, hrest⟩ := h
  have hget : (items.drop start)[0]? = some first := by rw [← hrest]; rfl
  refine ⟨by simpa using hget, rest, ?_⟩
  rw [← List.drop_drop, ← hrest]
  rfl

theorem StoredIn.of_map {harvest : Harvest α} {f : α → β} (h : (harvest.map f).StoredIn tree a) :
    harvest.StoredIn tree a := ⟨h.nodes, h.references⟩

theorem StoredIn.of_combine {x : Harvest α} {y : Harvest β} {f : α → β → γ}
    (h : (Harvest.combine f x y).StoredIn tree a) :
    x.StoredIn tree a ∧ y.StoredIn tree (x.frontier a) := by
  have hnodes := prefix_drop_append h.nodes
  have hreferences := prefix_drop_append h.references
  exact ⟨⟨hnodes.1, hreferences.1⟩, ⟨hnodes.2, hreferences.2⟩⟩

theorem StoredIn.of_node {id : NodeId} {kind : Option String} {properties : Harvest Properties}
    (h : (Harvest.node id kind properties).StoredIn tree a) :
    tree.node? ⟨a.nodes⟩ = some ⟨kind, properties.value, none⟩ ∧
      properties.StoredIn tree ⟨a.nodes + 1, a.references⟩ := by
  obtain ⟨hnode, hnodes⟩ := prefix_drop_cons h.nodes
  exact ⟨by simpa [LinkedTree.node?] using hnode, hnodes, h.references⟩

theorem StoredIn.of_reference {path : String} {properties : Harvest Properties}
    (h : (Harvest.reference a.references path properties).StoredIn tree a) :
    tree.reference? ⟨(properties.frontier a).references⟩ = some ⟨path, properties.value, none⟩ ∧
      properties.StoredIn tree a := by
  obtain ⟨hbefore, hlast⟩ := prefix_drop_append h.references
  refine ⟨?_, h.nodes, hbefore⟩
  simpa [LinkedTree.reference?, frontier] using (prefix_drop_cons hlast).1

theorem frontier_combine (x : Harvest α) (y : Harvest β) (f : α → β → γ) (a : Frontier) :
    (Harvest.combine f x y).frontier a = y.frontier (x.frontier a) := by
  simp [frontier, combine, Nat.add_assoc]

theorem frontier_node (id : NodeId) (kind : Option String) (properties : Harvest Properties)
    (a : Frontier) :
    (Harvest.node id kind properties).frontier a =
      properties.frontier ⟨a.nodes + 1, a.references⟩ := by
  simp [frontier, node, Nat.add_assoc, Nat.add_comm 1]

theorem frontier_reference (references : Nat) (path : String) (properties : Harvest Properties)
    (a : Frontier) :
    (Harvest.reference references path properties).frontier a =
      ⟨(properties.frontier a).nodes, (properties.frontier a).references + 1⟩ := by
  simp [frontier, reference, Nat.add_assoc]

end Harvest

namespace Conventions

theorem harvestItems_cons (conventions : Conventions) (a : Frontier) (item : Json)
    (rest : List Json) :
    conventions.harvestItems a.nodes a.references (item :: rest) =
      .combine (· :: ·) (conventions.harvest a.nodes a.references item)
        (conventions.harvestItems
          ((conventions.harvest a.nodes a.references item).frontier a).nodes
          ((conventions.harvest a.nodes a.references item).frontier a).references rest) := rfl

/-- Whether a field is left out of the properties of an object. -/
def drops (skipped : Option String) (name : String) : Bool :=
  isContainerField name || some name == skipped

theorem harvestFields_cons_of_dropped (conventions : Conventions) {skipped : Option String}
    (a : Frontier) {name : String} (value : Json) (rest : List (String × Json))
    (h : drops skipped name = true) :
    conventions.harvestFields skipped a.nodes a.references ((name, value) :: rest) =
      conventions.harvestFields skipped a.nodes a.references rest := by
  rw [drops] at h
  rw [harvestFields, if_pos h]

theorem harvestFields_cons_of_kept (conventions : Conventions) {skipped : Option String}
    (a : Frontier) {name : String} (value : Json) (rest : List (String × Json))
    (h : drops skipped name = false) :
    conventions.harvestFields skipped a.nodes a.references ((name, value) :: rest) =
      .combine (fun value rest => (name, value) :: rest)
        (conventions.harvest a.nodes a.references value)
        (conventions.harvestFields skipped
          ((conventions.harvest a.nodes a.references value).frontier a).nodes
          ((conventions.harvest a.nodes a.references value).frontier a).references rest) := by
  rw [drops] at h
  rw [harvestFields, if_neg (ne_true_of_eq_false h)]
  rfl

variable {tree : LinkedTree}

mutual
theorem harvest_laid (conventions : Conventions) : ∀ (a : Frontier) (json : Json),
    (conventions.harvest a.nodes a.references json).StoredIn tree a →
    tree.Laid (conventions.harvest a.nodes a.references json).value.entries a
      ((conventions.harvest a.nodes a.references json).frontier a)
  | a, .null, _ | a, .bool _, _ | a, .number _, _ | a, .string _, _ => .nil a
  | a, .array items, h => by
    rw [harvest] at h ⊢
    exact harvestItems_laid conventions a items h.of_map
  | a, .object fields, h => by
    rw [harvest] at h ⊢
    split at h
    · obtain ⟨hreference, hproperties⟩ := h.of_reference
      have hlaid := harvestFields_laid conventions (some conventions.refField) a fields hproperties
      rw [Harvest.frontier_reference]
      exact .reference (LinkedTree.contents?_of_reference? hreference) hlaid (.nil _)
    · obtain ⟨hnode, hproperties⟩ := h.of_node
      have hlaid := harvestFields_laid conventions (some conventions.typeField)
        ⟨a.nodes + 1, a.references⟩ fields hproperties
      rw [Harvest.frontier_node]
      exact .node (LinkedTree.contents?_of_node? hnode) hlaid (.nil _)
    · exact harvestFields_laid conventions none a fields h.of_map
termination_by structural _ json => json

theorem harvestItems_laid (conventions : Conventions) : ∀ (a : Frontier) (items : List Json),
    (conventions.harvestItems a.nodes a.references items).StoredIn tree a →
    tree.Laid (Value.itemEntries (conventions.harvestItems a.nodes a.references items).value) a
      ((conventions.harvestItems a.nodes a.references items).frontier a)
  | a, [], _ => .nil a
  | a, item :: rest, h => by
    rw [harvestItems_cons] at h ⊢
    obtain ⟨hitem, hrest⟩ := h.of_combine
    rw [Harvest.frontier_combine]
    exact (harvest_laid conventions a item hitem).append
      (harvestItems_laid conventions _ rest hrest)
termination_by structural _ items => items

theorem harvestFields_laid (conventions : Conventions) (skipped : Option String) :
    ∀ (a : Frontier) (fields : List (String × Json)),
      (conventions.harvestFields skipped a.nodes a.references fields).StoredIn tree a →
      tree.Laid
        (Value.fieldEntries (conventions.harvestFields skipped a.nodes a.references fields).value) a
        ((conventions.harvestFields skipped a.nodes a.references fields).frontier a)
  | a, [], _ => .nil a
  | a, (name, value) :: rest, h => by
    cases hname : drops skipped name with
    | true =>
      rw [harvestFields_cons_of_dropped _ _ _ _ hname] at h ⊢
      exact harvestFields_laid conventions skipped a rest h
    | false =>
      rw [harvestFields_cons_of_kept _ _ _ _ hname] at h ⊢
      obtain ⟨hvalue, hrest⟩ := h.of_combine
      rw [Harvest.frontier_combine]
      exact (harvest_laid conventions a value hvalue).append
        (harvestFields_laid conventions skipped _ rest hrest)
termination_by structural _ fields => fields
end

theorem build_storedIn (conventions : Conventions) (fields : List (String × Json)) :
    (conventions.harvestRoot fields).StoredIn (conventions.build fields) ⟨0, 0⟩ :=
  ⟨List.prefix_refl _, List.prefix_refl _⟩

/-- The tree that is built from a root object is laid out. -/
theorem build_laidOut (conventions : Conventions) (fields : List (String × Json)) :
    (conventions.build fields).LaidOut := by
  obtain ⟨hnode, hproperties⟩ := (conventions.build_storedIn fields).of_node
  have hlaid := harvestFields_laid conventions (some conventions.typeField) ⟨1, 0⟩ fields hproperties
  have hfrontier : (conventions.build fields).frontier =
      (conventions.harvestFields (some conventions.typeField) 1 0 fields).frontier ⟨1, 0⟩ := by
    have h := Harvest.frontier_node ⟨0⟩ (textAt? fields conventions.typeField)
      (conventions.harvestFields (some conventions.typeField) 1 0 fields) ⟨0, 0⟩
    rw [← h]
    simp [LinkedTree.frontier, Harvest.frontier, build, textAt?]
  rw [LinkedTree.LaidOut, hfrontier]
  exact .node (a := ⟨0, 0⟩) (LinkedTree.contents?_of_node? hnode) hlaid (.nil _)

end Conventions

end EditorBridge
