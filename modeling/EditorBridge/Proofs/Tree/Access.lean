import EditorBridge.Proofs.Tree.Containers
import EditorBridge.Tree.Containment
import EditorBridge.Tree.Render
/-!
Access to the arenas.  Linked trees are ownership trees, and no handle that linking, a path, a walk, the
containment graph or rendering looks up is outside of its arena.  Rendering is bounded in depth; that it
neither leaves the arenas nor runs out of depth is said by `toJson?`, which fails where it would.
-/

set_option autoImplicit false

namespace EditorBridge

/-! ## Values that a path leads to -/

namespace Value

theorem entries_subset_of_mem_items {items : List Value} {item : Value} (h : item ∈ items) :
    item.entries ⊆ itemEntries items := by
  induction items with
  | nil => exact absurd h List.not_mem_nil
  | cons first rest ih =>
    rw [itemEntries]
    rcases List.mem_cons.mp h with rfl | hrest
    · exact List.subset_append_left _ _
    · exact List.Subset.trans (ih hrest) (List.subset_append_right _ _)

theorem entries_subset_of_mem_fields {fields : List (String × Value)} {field : String × Value}
    (h : field ∈ fields) : field.2.entries ⊆ fieldEntries fields := by
  induction fields with
  | nil => exact absurd h List.not_mem_nil
  | cons first rest ih =>
    rw [fieldEntries]
    rcases List.mem_cons.mp h with rfl | hrest
    · exact List.subset_append_left _ _
    · exact List.Subset.trans (ih hrest) (List.subset_append_right _ _)

end Value

namespace LinkedTree

variable {tree : LinkedTree}

/-- All entries in a value are inside their arenas. -/
def ValueInArena (tree : LinkedTree) (value : Value) : Prop :=
  ∀ entry ∈ value.entries, tree.InArena entry

/-- Whatever steps lead to from the root holds only entries inside their arenas. -/
def PathsInArena (tree : LinkedTree) : Prop :=
  ∀ segments value, tree.follow? (.node tree.root) segments = some value → tree.ValueInArena value

theorem LaidOut.propertiesOf_inArena (h : tree.LaidOut) {value : Value} {properties : Properties}
    (hvalue : tree.ValueInArena value) (hof : tree.propertiesOf? value = some properties) :
    ∀ entry ∈ Value.fieldEntries properties, tree.InArena entry := by
  cases value with
  | node id =>
    intro entry hmem
    obtain ⟨node, hnode, rfl⟩ := Option.map_eq_some_iff.mp hof
    have hholds : tree.Holds (.node id) entry := by
      rw [Holds, contents_eq_of_contents? (contents?_of_node? hnode)]
      exact hmem
    exact h.inArena_of_holds hholds
  | record fields =>
    rw [Option.some.inj hof.symm]
    exact hvalue
  | _ => simp [propertiesOf?] at hof

/-- One step of a path stays inside the arenas. -/
theorem LaidOut.step_inArena (h : tree.LaidOut) {value held : Value} {segment : Conventions.Segment}
    (hvalue : tree.ValueInArena value) (hstep : tree.step? value segment = some held) :
    tree.ValueInArena held := by
  simp only [step?, Option.bind_eq_bind, Option.bind_eq_some_iff] at hstep
  obtain ⟨properties, hof, found, hlookup, hstep⟩ := hstep
  have hfound : tree.ValueInArena found := fun entry hmem =>
    h.propertiesOf_inArena hvalue hof entry
      (Value.entries_subset_of_mem_fields (Json.mem_of_lookup hlookup) hmem)
  cases hindex : segment.index with
  | none =>
    rw [hindex] at hstep
    rw [← Option.some.inj hstep]
    exact hfound
  | some index =>
    simp only [hindex, Option.bind_eq_some_iff] at hstep
    obtain ⟨items, hitems, hget⟩ := hstep
    cases found with
    | array items' =>
      cases Option.some.inj hitems
      exact fun entry hmem => hfound entry
        (Value.entries_subset_of_mem_items (List.mem_of_getElem? hget) hmem)
    | _ => simp [Value.asArray?] at hitems

theorem LaidOut.follow_inArena (h : tree.LaidOut) {value held : Value}
    {segments : List Conventions.Segment} (hvalue : tree.ValueInArena value)
    (hfollow : tree.follow? value segments = some held) : tree.ValueInArena held := by
  induction segments generalizing value with
  | nil =>
    rw [← Option.some.inj hfollow]
    exact hvalue
  | cons segment rest ih =>
    rw [follow?, List.foldlM_cons, Option.bind_eq_bind, Option.bind_eq_some_iff] at hfollow
    obtain ⟨next, hstep, hrest⟩ := hfollow
    exact ih (h.step_inArena hvalue hstep) hrest

theorem LaidOut.paths_inArena (h : tree.LaidOut) : tree.PathsInArena := by
  intro segments value hfollow
  refine h.follow_inArena (fun entry hmem => ?_) hfollow
  rw [List.mem_singleton.mp hmem]
  exact h.root_inArena

theorem LaidOut.resolve_inArena (h : tree.LaidOut) {path : String} {id : NodeId}
    (hresolve : tree.resolve? path = some id) : tree.InArena (.node id) := by
  simp only [resolve?, Option.bind_eq_bind, Option.bind_eq_some_iff] at hresolve
  obtain ⟨segments, _, value, hfollow, hnode⟩ := hresolve
  cases value with
  | node other =>
    cases Option.some.inj hnode
    exact h.paths_inArena segments _ hfollow _ (List.mem_singleton_self _)
  | _ => simp [Value.asNode?] at hnode

end LinkedTree

/-- Linking, from what it has come to, looks up nothing outside of the arenas: neither the entry of a
stop that is due nor what a path leads to. -/
structure Linking.InArena (linking : Linking) : Prop where
  pending : ∀ visit ∈ linking.pending, linking.tree.InArena visit.entry
  paths : linking.tree.PathsInArena

/-! ## Rendering that can fail -/

namespace Value

mutual
/-- The JSON of a value, absent if the JSON of an entry in it is. -/
def toJson? (entry : Entry → Option Json) : Value → Option Json
  | null => some .null
  | bool value => some (.bool value)
  | number value => some (.number value)
  | string value => some (.string value)
  | array items => (itemsToJson? entry items).map .array
  | record fields => (fieldsToJson? entry [] fields).map .object
  | node id => entry (.node id)
  | reference id => entry (.reference id)
termination_by structural value => value

/-- The JSON of items, absent if that of one of them is. -/
def itemsToJson? (entry : Entry → Option Json) : List Value → Option (List Json)
  | [] => some []
  | item :: rest => do return (← toJson? entry item) :: (← itemsToJson? entry rest)
termination_by structural items => items

/-- Adds properties to the fields written so far, unless the JSON of one of them is absent. -/
def fieldsToJson? (entry : Entry → Option Json) (written : List (String × Json)) :
    List (String × Value) → Option (List (String × Json))
  | [] => some written
  | (name, value) :: rest => do
    fieldsToJson? entry (Json.put written name (← toJson? entry value)) rest
termination_by structural fields => fields
end

section ToJson

variable {render? : Entry → Option Json} {entry : Entry → Json}

mutual
theorem toJson?_eq_some : ∀ value : Value, (∀ held ∈ value.entries, render? held = some (entry held)) →
    toJson? render? value = some (toJson entry value)
  | null, _ | bool _, _ | number _, _ | string _, _ => rfl
  | node _, h | reference _, h => h _ (List.mem_singleton_self _)
  | array items, h => by rw [toJson?, itemsToJson?_eq_some items h, toJson, Option.map_some]
  | record fields, h => by rw [toJson?, fieldsToJson?_eq_some fields [] h, toJson, Option.map_some]
termination_by structural value => value

theorem itemsToJson?_eq_some : ∀ items : List Value,
    (∀ held ∈ itemEntries items, render? held = some (entry held)) →
    itemsToJson? render? items = some (itemsToJson entry items)
  | [], _ => rfl
  | item :: rest, h => by
    rw [itemEntries] at h
    rw [itemsToJson?, toJson?_eq_some item fun held hmem => h held (List.mem_append_left _ hmem),
      itemsToJson?_eq_some rest fun held hmem => h held (List.mem_append_right _ hmem)]
    rfl
termination_by structural items => items

theorem fieldsToJson?_eq_some : ∀ (fields : List (String × Value)) (written : List (String × Json)),
    (∀ held ∈ fieldEntries fields, render? held = some (entry held)) →
    fieldsToJson? render? written fields = some (fieldsToJson entry written fields)
  | [], _, _ => rfl
  | (name, value) :: rest, written, h => by
    rw [fieldEntries] at h
    rw [fieldsToJson?, toJson?_eq_some value fun held hmem => h held (List.mem_append_left _ hmem)]
    exact fieldsToJson?_eq_some rest _ fun held hmem => h held (List.mem_append_right _ hmem)
termination_by structural fields => fields
end

end ToJson

end Value

namespace LinkedTree

/-- The JSON of an entry, absent if rendering leaves the arenas or needs more than `depth`. -/
def entryToJson? (tree : LinkedTree) : Nat → Entry → Option Json
  | 0, _ => none
  | depth + 1, entry => do
    let properties ← tree.properties? entry
    let header := (tree.header entry).foldl
      (fun written (name, value) => Json.put written name value) []
    return .object (← Value.fieldsToJson? (tree.entryToJson? depth) header properties)

/-- The JSON of the whole tree, if rendering it stays inside the arenas and within its depth. -/
def toJson? (tree : LinkedTree) : Option Json := tree.entryToJson? tree.entryCount (.node tree.root)

variable {tree : LinkedTree}

theorem entryToJson?_succ {depth : Nat} {entry : Entry} {held : List Entry}
    (hcontents : tree.contents? entry = some held)
    (h : ∀ inner ∈ held, tree.entryToJson? depth inner = some (tree.entryToJson depth inner)) :
    tree.entryToJson? (depth + 1) entry = some (tree.entryToJson (depth + 1) entry) := by
  obtain ⟨properties, hproperties, rfl⟩ := Option.map_eq_some_iff.mp hcontents
  have hsame : tree.entryProperties entry = properties := by
    cases entry with
    | node id => rw [entryProperties, show (tree.node? id).map _ = _ from hproperties]; rfl
    | reference id => rw [entryProperties, show (tree.reference? id).map _ = _ from hproperties]; rfl
  simp only [entryToJson?, entryToJson, hproperties, hsame, Option.bind_eq_bind, Option.bind_some,
    Value.fieldsToJson?_eq_some properties _ h]
  rfl

/-- Entries that are laid out are rendered within a depth of as many levels as there are handles. -/
theorem Laid.entryToJson? {entries : List Entry} {a b : Frontier} (h : tree.Laid entries a b)
    {depth : Nat} (hdepth : b.nodes - a.nodes + (b.references - a.references) ≤ depth) :
    ∀ entry ∈ entries, tree.entryToJson? depth entry = some (tree.entryToJson depth entry) := by
  induction h generalizing depth with
  | nil a => exact fun _ hmem => absurd hmem List.not_mem_nil
  | @node held rest a b c hcontents hheld hrest ihheld ihrest =>
    have hab := hheld.precedes
    have hbc := hrest.precedes
    simp only [Frontier.Precedes] at hab hbc
    intro entry hmem
    rcases List.mem_cons.mp hmem with rfl | hmem
    · obtain ⟨depth, rfl⟩ : ∃ d, depth = d + 1 := ⟨depth - 1, by omega⟩
      exact entryToJson?_succ hcontents (ihheld (by simp only; omega))
    · exact ihrest (by omega) entry hmem
  | @reference held rest a b c hcontents hheld hrest ihheld ihrest =>
    have hab := hheld.precedes
    have hbc := hrest.precedes
    simp only [Frontier.Precedes] at hab hbc
    intro entry hmem
    rcases List.mem_cons.mp hmem with rfl | hmem
    · obtain ⟨depth, rfl⟩ : ∃ d, depth = d + 1 := ⟨depth - 1, by omega⟩
      exact entryToJson?_succ hcontents (ihheld (by omega))
    · exact ihrest (by simp only; omega) entry hmem

theorem LaidOut.toJson?_eq (h : tree.LaidOut) : tree.toJson? = some tree.toJson :=
  Laid.entryToJson? h (by simp [frontier, entryCount]) _ (List.mem_singleton_self _)

/-! ## Accesses of linking and of walks -/

/-- A stop that is due is inside its arena. -/
theorem LaidOut.due_inArena (h : tree.LaidOut) (steps : Nat) :
    ∀ visit ∈ (Traversal.after tree steps tree.traversal).pending, tree.InArena visit.entry :=
  fun _ hmem => (h.progress steps).inArena h (List.mem_append_right _ hmem)

theorem LaidOut.walkedNodes_inArena (h : tree.LaidOut) :
    ∀ id ∈ tree.walkedNodes, tree.InArena (.node id) := by
  intro id hmem
  obtain ⟨entry, hentry, hid⟩ := List.mem_filterMap.mp hmem
  cases entry with
  | node other =>
    cases Option.some.inj hid
    exact h.inArena_of_mem_flatten hentry
  | reference other => exact absurd hid (by simp)

theorem LaidOut.linking_inArena (h : tree.LaidOut) (steps : Nat) :
    (Linking.run steps (.start tree)).InArena := by
  have hunlinked := tree.unlinked_run steps
  refine ⟨fun visit hmem => ?_, (h.of_unlinked_eq hunlinked.symm).paths_inArena⟩
  rw [inArena_iff_of_unlinked_eq hunlinked]
  rw [run_start] at hmem
  exact h.due_inArena steps visit hmem

/-! ## Ownership trees -/

/-- The arenas form a tree by what the values of their nodes and references hold. -/
structure OwnershipTree (tree : LinkedTree) : Prop where
  root_inArena : tree.InArena (.node tree.root)
  root_not_held : .node tree.root ∉ tree.held
  held_once : ∀ entry, tree.InArena entry → entry ≠ .node tree.root → tree.held.count entry = 1
  held_inArena : ∀ entry ∈ tree.held, tree.InArena entry
  container_inArena : ∀ id container, tree.container? id = some container →
    tree.InArena (.node container.node)
  target_inArena : ∀ id reference target, tree.reference? id = some reference →
    reference.target = some target → tree.InArena (.node target)
  handle_lt : ∀ owner id, tree.Beneath (.node owner) (.node id) → owner.index < id.index
  acyclic : ∀ entry, ¬ tree.Beneath entry entry

theorem ownershipTree_linked (conventions : Conventions) (fields : List (String × Json)) :
    (conventions.build fields).link.OwnershipTree := by
  have hbuilt := conventions.build_laidOut fields
  have hlinked := linked_laidOut conventions fields
  have hfresh := conventions.unlinked_build fields
  have hunlinked := (conventions.build fields).unlinked_link
  refine ⟨hlinked.root_inArena, hlinked.root_not_held, fun _ => hlinked.count_held,
    fun _ => hlinked.inArena_of_mem_held, ?_, ?_, fun _ _ => hlinked.handle_lt, hlinked.acyclic⟩
  · intro id container hcontainer
    have hvisit := (container?_link_iff hbuilt hfresh).mp hcontainer
    rw [inArena_iff_of_unlinked_eq hunlinked]
    exact hbuilt.inArena_of_mem_flatten ((mem_visits_contained_iff hbuilt).mp hvisit).1
  · intro id reference target hreference htarget
    by_cases hmem : .reference id ∈ (conventions.build fields).flatten
    · rw [hbuilt.target_of_visited hmem hreference] at htarget
      exact hlinked.resolve_inArena htarget
    · rw [LaidOut.target_of_not_visited hfresh hmem hreference] at htarget
      exact absurd htarget (by simp)

/-- **The arenas of a linked tree form an ownership tree, and no access to them can fail**: none of
linking at any moment of the loop, of paths, of the walk, of the containment graph, and of rendering. -/
theorem arenas_form_ownership_tree (conventions : Conventions) (fields : List (String × Json)) :
    ∃ tree, ofJson conventions (.object fields) = .ok tree ∧ tree.OwnershipTree ∧
      (∀ steps, (Linking.run steps (.start (conventions.build fields))).InArena) ∧
      tree.PathsInArena ∧
      (∀ steps, ∀ visit ∈ (Traversal.after tree steps tree.traversal).pending,
        tree.InArena visit.entry) ∧
      (∀ id ∈ tree.walkedNodes, tree.InArena (.node id)) ∧
      tree.toJson? = some tree.toJson := by
  have hbuilt := conventions.build_laidOut fields
  have hlinked := linked_laidOut conventions fields
  exact ⟨_, ofJson_object conventions fields, ownershipTree_linked conventions fields,
    hbuilt.linking_inArena, hlinked.paths_inArena, hlinked.due_inArena,
    hlinked.walkedNodes_inArena, hlinked.toJson?_eq⟩

end LinkedTree

end EditorBridge
