import EditorBridge.Proofs.Tree.Linking
/-!
Containers.  Where no object repeats a key, a node holds another one in a slot exactly if looking the
child up finds it (`LinkedTree.child?_eq_some_iff`); the container that linking records is the slot, for
the walk meets a node in the one slot that holds it.
-/

set_option autoImplicit false

namespace EditorBridge

/-! ## Slots and children -/

namespace Value

/-- The node that a value is, or that it has at an index if it is an array. -/
def nodeAt? (value : Value) : Option Nat → Option NodeId
  | some index => do (← (← value.asArray?)[index]?).asNode?
  | none => value.asNode?

theorem asEntry?_eq_node_iff {value : Value} {id : NodeId} :
    value.asEntry? = some (.node id) ↔ value.asNode? = some id := by
  cases value <;> simp [asNode?, asEntry?]

theorem mem_slots_iff {value : Value} {property name : String} {index : Option Nat} {id : NodeId} :
    ⟨name, index, .node id⟩ ∈ value.slots property ↔
      property = name ∧ value.nodeAt? index = some id := by
  cases value with
  | array items =>
    simp only [slots, List.mem_filterMap, Prod.exists, List.mk_mem_zipIdx_iff_getElem?,
      Option.map_eq_some_iff, Slot.mk.injEq]
    constructor
    · rintro ⟨item, place, hitem, entry, hentry, rfl, rfl, rfl⟩
      simp [nodeAt?, asArray?, hitem, asEntry?_eq_node_iff.mp hentry]
    · rintro ⟨rfl, hnode⟩
      cases index with
      | none => simp [nodeAt?, asNode?] at hnode
      | some place =>
        simp only [nodeAt?, asArray?, Option.bind_eq_bind, Option.bind_some,
          Option.bind_eq_some_iff] at hnode
        obtain ⟨item, hitem, hnode⟩ := hnode
        exact ⟨item, place, hitem, _, asEntry?_eq_node_iff.mpr hnode, rfl, rfl, rfl⟩
  | _ => cases index <;> simp [slots, nodeAt?, asArray?, asNode?, asEntry?, eq_comm]

end Value

/-- Where no property is repeated, a node has a slot for another one just if the property holds it. -/
theorem Node.mem_slots_iff {node : Node} (unique : (node.properties.map Prod.fst).Nodup)
    {property : String} {index : Option Nat} {id : NodeId} :
    ⟨property, index, .node id⟩ ∈ node.slots ↔
      ∃ value, node.property? property = some value ∧ value.nodeAt? index = some id := by
  simp only [slots, List.mem_flatMap, Prod.exists, Value.mem_slots_iff, property?,
    Json.lookup_eq_some_iff unique]
  constructor
  · rintro ⟨name, value, hmem, rfl, hnode⟩
    exact ⟨value, hmem, hnode⟩
  · rintro ⟨value, hmem, hnode⟩
    exact ⟨property, value, hmem, rfl, hnode⟩

namespace LinkedTree

def container? (tree : LinkedTree) (id : NodeId) : Option Container :=
  (tree.node? id).bind Node.container

theorem child?_eq_some_iff {tree : LinkedTree} {owner : NodeId} {node : Node}
    (hnode : tree.node? owner = some node) (unique : (node.properties.map Prod.fst).Nodup)
    {property : String} {index : Option Nat} {id : NodeId} :
    tree.child? owner property index = some id ↔ ⟨property, index, .node id⟩ ∈ node.slots := by
  have hchild : tree.child? owner property index =
      (node.property? property).bind fun value => value.nodeAt? index := by
    simp only [child?, hnode, Option.bind_eq_bind, Option.bind_some]
    cases index <;> rfl
  rw [hchild, Option.bind_eq_some_iff, Node.mem_slots_iff unique]

/-! ## Recorded containers -/

/-- A node that is not met has no container. -/
theorem container?_link_of_not_visited {tree : LinkedTree} (hfresh : tree.unlinked = tree)
    {id : NodeId} (hmem : .node id ∉ tree.flatten) : tree.link.container? id = none := by
  rw [container?, node?_link_of_not_visited hmem]
  cases hnode : tree.node? id with
  | none => rfl
  | some node => exact container_of_unlinked hfresh hnode

/-- A node gets a container just from the stop at which it is met. -/
theorem container?_link_iff {tree : LinkedTree} (h : tree.LaidOut) (hfresh : tree.unlinked = tree)
    {id : NodeId} {container : Container} :
    tree.link.container? id = some container ↔ ⟨.node id, some container⟩ ∈ tree.visits := by
  by_cases hmem : .node id ∈ tree.flatten
  · obtain ⟨node, hnode⟩ := node?_of_inArena (h.inArena_of_mem_flatten hmem)
    obtain ⟨⟨entry, held⟩, hvisit, rfl⟩ := List.mem_map.mp hmem
    have hlinked := h.node?_link_of_visited hvisit
    rw [hnode, Option.map_some] at hlinked
    rw [container?, hlinked, Option.bind_some]
    constructor
    · rintro rfl
      exact hvisit
    · intro hother
      exact congrArg Visit.container (List.inj_on_of_nodup_map h.nodup_visits hvisit hother rfl)
  · have hvisit : ⟨.node id, some container⟩ ∉ tree.visits := fun hvisit =>
      hmem (List.mem_map_of_mem hvisit)
    rw [container?_link_of_not_visited hfresh hmem]
    exact ⟨fun hcontainer => absurd hcontainer (by simp), fun hvisit' => absurd hvisit' hvisit⟩

/-- The root is met without a container, and only once. -/
theorem container?_link_root {tree : LinkedTree} (h : tree.LaidOut) (hfresh : tree.unlinked = tree) :
    tree.link.container? tree.root = none := by
  cases hroot : tree.link.container? tree.root with
  | none => rfl
  | some container =>
    have hvisit := (container?_link_iff h hfresh).mp hroot
    have hfirst := h.mem_visits_iff.mpr (Or.inl rfl)
    have hsame := List.inj_on_of_nodup_map h.nodup_visits hvisit hfirst rfl
    exact absurd (congrArg Visit.container hsame) (by simp [firstVisit])

/-- The stops other than the first one are the slots of nodes that are met. -/
theorem mem_visits_contained_iff {tree : LinkedTree} (h : tree.LaidOut) {entry : Entry}
    {container : Container} :
    ⟨entry, some container⟩ ∈ tree.visits ↔ .node container.node ∈ tree.flatten ∧
      ∃ node, tree.node? container.node = some node ∧
        ⟨container.property, container.index, entry⟩ ∈ node.slots := by
  rw [h.mem_visits_iff]
  constructor
  · rintro (hfirst | ⟨earlier, hearlier, hbelow⟩)
    · exact absurd (congrArg Visit.container hfirst) (by simp [firstVisit])
    · obtain ⟨owner, node, slot, howner, hnode, hslot, heq⟩ := mem_below_iff.mp hbelow
      simp only [Visit.mk.injEq, Option.some.injEq] at heq
      obtain ⟨rfl, rfl⟩ := heq
      exact ⟨List.mem_map.mpr ⟨earlier, hearlier, howner⟩, node, hnode, hslot⟩
  · rintro ⟨hmem, node, hnode, hslot⟩
    obtain ⟨earlier, hearlier, howner⟩ := List.mem_map.mp hmem
    exact Or.inr ⟨earlier, hearlier, mem_below_iff.mpr ⟨_, node, _, howner, hnode, hslot, rfl⟩⟩

/-- A document with nodes in an array, in an array inside of it, in a record and in a reference. -/
def nestedDocument : List (String × Json) :=
  [("$type", .string "Model"),
    ("items", .array [.object [("$type", .string "Item")],
      .array [.object [("$type", .string "Deep")]],
      .object [("$type", .string "Item"), ("leaf", .object [("$type", .string "Leaf")])]]),
    ("meta", .object [("$type", .null), ("note", .object [("$type", .string "Note")])]),
    ("first", .object [("$ref", .string "#/items@0"),
      ("text", .object [("$type", .string "Text")])])]

/-- What a linked tree says about containers. -/
structure ContainersExact (tree : LinkedTree) : Prop where
  /-- Below a node on the walk, looking a child up and its container are two sides of one thing. -/
  child_iff : ∀ owner, .node owner ∈ tree.flatten → ∀ property index id,
    tree.child? owner property index = some id ↔
      tree.container? id = some ⟨owner, property, index⟩
  root : tree.container? tree.root = none
  /-- Nodes that the walk does not meet have no container. -/
  hidden : ∀ id, .node id ∉ tree.flatten → tree.container? id = none
  /-- Containers are nodes on the walk. -/
  owner_mem : ∀ id container, tree.container? id = some container →
    .node container.node ∈ tree.flatten

/-- **The containers of a linked tree are exactly the slots of the nodes on the walk.** -/
theorem containers_exact (conventions : Conventions) (fields : List (String × Json))
    (unique : (Json.object fields).hasUniqueKeys = true) :
    ∃ tree, ofJson conventions (.object fields) = .ok tree ∧ tree.ContainersExact := by
  have hbuilt := conventions.build_laidOut fields
  have hfresh := conventions.unlinked_build fields
  have hcontainer := @container?_link_iff _ hbuilt hfresh
  have hunlinked := (conventions.build fields).unlinked_link
  refine ⟨_, ofJson_object conventions fields, ?_, ?_, ?_, ?_⟩
  · intro owner hmem property index id
    rw [flatten_link] at hmem
    obtain ⟨node, hnode⟩ := node?_of_inArena (hbuilt.inArena_of_mem_flatten hmem)
    have hproperties := conventions.nodup_properties_build unique hnode
    rw [hcontainer, mem_visits_contained_iff hbuilt, child?_eq_of_unlinked_eq hunlinked,
      child?_eq_some_iff hnode hproperties]
    constructor
    · intro hslot
      exact ⟨hmem, node, hnode, hslot⟩
    · rintro ⟨_, other, hother, hslot⟩
      rw [hnode] at hother
      rw [Option.some.inj hother]
      exact hslot
  · rw [root_eq_of_unlinked_eq hunlinked]
    exact container?_link_root hbuilt hfresh
  · intro id hmem
    rw [flatten_link] at hmem
    exact container?_link_of_not_visited hfresh hmem
  · intro id container hheld
    rw [flatten_link]
    exact ((mem_visits_contained_iff hbuilt).mp (hcontainer.mp hheld)).1

theorem containers_exact_nested :
    (Json.object nestedDocument).hasUniqueKeys = true ∧
      ∃ tree, ofJson {} (.object nestedDocument) = .ok tree ∧ tree.ContainersExact :=
  ⟨by decide, containers_exact {} nestedDocument (by decide)⟩

end LinkedTree

end EditorBridge
