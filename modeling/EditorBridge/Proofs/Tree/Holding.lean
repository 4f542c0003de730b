import EditorBridge.Proofs.Tree.Unlinked
/-!
Who holds what.  `Value.entries` lists the entries in a value, through arrays and plain records, and
`LinkedTree.contents` those in the properties of an entry.  Slots are a part of that.
-/

set_option autoImplicit false

namespace EditorBridge

/-! ## What a value holds -/

namespace Value

mutual
/-- The entries in a value, at any depth through arrays and plain records. -/
def entries : Value → List Entry
  | array items => itemEntries items
  | record fields => fieldEntries fields
  | node id => [.node id]
  | reference id => [.reference id]
  | _ => []
termination_by structural value => value

def itemEntries : List Value → List Entry
  | [] => []
  | item :: rest => entries item ++ itemEntries rest
termination_by structural items => items

def fieldEntries : List (String × Value) → List Entry
  | [] => []
  | (_, value) :: rest => entries value ++ fieldEntries rest
termination_by structural fields => fields
end

theorem asEntry?_toList_sublist (value : Value) : value.asEntry?.toList.Sublist value.entries := by
  cases value <;> simp [entries, asEntry?]

theorem entries_of_items_sublist (items : List Value) (start : Nat) (property : String) :
    (((items.zipIdx start).filterMap fun (item, index) =>
      item.asEntry?.map fun entry => (⟨property, some index, entry⟩ : Slot)).map Slot.entry).Sublist
      (itemEntries items) := by
  induction items generalizing start with
  | nil => exact List.Sublist.slnil
  | cons item rest ih =>
    have hitem := asEntry?_toList_sublist item
    rw [List.zipIdx_cons, itemEntries]
    cases hentry : item.asEntry? with
    | none =>
      rw [List.filterMap_cons_none (by simp [hentry])]
      exact (ih (start + 1)).trans (List.sublist_append_right _ _)
    | some entry =>
      rw [hentry] at hitem
      rw [List.filterMap_cons_some (by simp [hentry]; rfl), List.map_cons, ← List.singleton_append]
      exact hitem.append (ih (start + 1))

theorem slots_sublist (property : String) (value : Value) :
    ((value.slots property).map Slot.entry).Sublist value.entries := by
  cases value with
  | array items => exact entries_of_items_sublist items 0 property
  | _ => simp [slots, entries, asEntry?]

end Value

/-- What the slots of a node hold is among what its properties hold. -/
theorem Node.slots_sublist (node : Node) :
    (node.slots.map Slot.entry).Sublist (Value.fieldEntries node.properties) := by
  unfold Node.slots
  induction node.properties with
  | nil => exact List.Sublist.slnil
  | cons field rest ih =>
    obtain ⟨name, value⟩ := field
    rw [List.flatMap_cons, List.map_append, Value.fieldEntries]
    exact (value.slots_sublist name).append ih

/-! ## What an entry holds -/

namespace LinkedTree

/-- The properties of an entry, if it is in its arena. -/
def properties? (tree : LinkedTree) : Entry → Option Properties
  | .node id => (tree.node? id).map Node.properties
  | .reference id => (tree.reference? id).map Reference.properties

/-- What an entry holds, if it is in its arena. -/
def contents? (tree : LinkedTree) (entry : Entry) : Option (List Entry) :=
  (tree.properties? entry).map Value.fieldEntries

/-- What an entry holds. -/
def contents (tree : LinkedTree) (entry : Entry) : List Entry := (tree.contents? entry).getD []

/-- Whether a handle is inside its arena. -/
def InArena (tree : LinkedTree) : Entry → Prop
  | .node id => id.index < tree.nodes.size
  | .reference id => id.index < tree.references.size

/-- An entry holds another one, directly or through arrays and plain records. -/
def Holds (tree : LinkedTree) (owner entry : Entry) : Prop := entry ∈ tree.contents owner

theorem contents?_of_node? {tree : LinkedTree} {id : NodeId} {node : Node}
    (h : tree.node? id = some node) :
    tree.contents? (.node id) = some (Value.fieldEntries node.properties) := by
  rw [contents?, properties?, h]
  rfl

theorem contents?_of_reference? {tree : LinkedTree} {id : ReferenceId} {reference : Reference}
    (h : tree.reference? id = some reference) :
    tree.contents? (.reference id) = some (Value.fieldEntries reference.properties) := by
  rw [contents?, properties?, h]
  rfl

theorem contents?_isSome {tree : LinkedTree} {entry : Entry} :
    (tree.contents? entry).isSome = true ↔ tree.InArena entry := by
  cases entry <;> simp [contents?, properties?, InArena, node?, reference?]

theorem node?_of_inArena {tree : LinkedTree} {id : NodeId} (h : tree.InArena (.node id)) :
    ∃ node, tree.node? id = some node := ⟨_, Array.getElem?_eq_getElem h⟩

theorem reference?_of_inArena {tree : LinkedTree} {id : ReferenceId}
    (h : tree.InArena (.reference id)) : ∃ reference, tree.reference? id = some reference :=
  ⟨_, Array.getElem?_eq_getElem h⟩

theorem contents_eq_of_contents? {tree : LinkedTree} {entry : Entry} {held : List Entry}
    (h : tree.contents? entry = some held) : tree.contents entry = held := by
  rw [contents, h, Option.getD_some]

theorem inArena_of_holds {tree : LinkedTree} {owner entry : Entry} (h : tree.Holds owner entry) :
    tree.InArena owner := by
  rw [← contents?_isSome]
  cases hcontents : tree.contents? owner with
  | none => simp [Holds, contents, hcontents] at h
  | some held => rfl

theorem contents?_unlinked (tree : LinkedTree) (entry : Entry) :
    tree.unlinked.contents? entry = tree.contents? entry := by
  cases entry with
  | node id =>
    simp only [contents?, properties?, node?_unlinked, Option.map_map]
    rfl
  | reference id =>
    simp only [contents?, properties?, reference?_unlinked, Option.map_map]
    rfl

theorem contents?_eq_of_unlinked_eq {a b : LinkedTree} (h : a.unlinked = b.unlinked)
    (entry : Entry) : a.contents? entry = b.contents? entry := by
  rw [← contents?_unlinked a, h, contents?_unlinked]

/-- What is directly below an entry is among what it holds. -/
theorem below_sublist (tree : LinkedTree) (entry : Entry) :
    ((tree.below entry).map Visit.entry).Sublist (tree.contents entry) := by
  cases entry with
  | reference id => exact List.nil_sublist _
  | node id =>
    simp only [below, contents, contents?, properties?]
    cases tree.node? id with
    | none => exact List.nil_sublist _
    | some node => simpa [List.map_map, Function.comp_def] using node.slots_sublist

end LinkedTree

end EditorBridge
