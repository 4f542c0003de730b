import EditorBridge.Proofs.Tree.Building
import EditorBridge.Proofs.Tree.Walk
/-!
Linking.  The loop that records stops while it walks makes the same stops as the walk through the tree
that was built (`Linking.run_eq`), for recording changes nothing that the walk or a path looks at.  Each
entry comes up once, so nothing recorded is overwritten: a node has the container of its stop, and a
reference the target that its path has in the finished tree.
-/

set_option autoImplicit false

namespace EditorBridge

namespace LinkedTree

variable {tree : LinkedTree} {visit : Visit} {visits : List Visit}

/-! ## Recording one stop -/

theorem node?_record_self (tree : LinkedTree) (id : NodeId) (container : Option Container) :
    (tree.record ⟨.node id, container⟩).node? id =
      (tree.node? id).map fun node => { node with container := container } := by
  simp [record, node?, Array.getElem?_modify]

theorem node?_record_of_ne {id : NodeId} (h : visit.entry ≠ .node id) :
    (tree.record visit).node? id = tree.node? id := by
  obtain ⟨entry, container⟩ := visit
  cases entry with
  | reference other => rfl
  | node other =>
    have hindex : other.index ≠ id.index := by
      rintro heq
      exact h (congrArg Entry.node (congrArg NodeId.mk heq))
    simp [record, node?, Array.getElem?_modify, hindex]

theorem reference?_record_self (tree : LinkedTree) (id : ReferenceId)
    (container : Option Container) :
    (tree.record ⟨.reference id, container⟩).reference? id =
      (tree.reference? id).map fun reference =>
        { reference with target := tree.resolve? reference.path } := by
  simp [record, reference?, Array.getElem?_modify]

theorem reference?_record_of_ne {id : ReferenceId} (h : visit.entry ≠ .reference id) :
    (tree.record visit).reference? id = tree.reference? id := by
  obtain ⟨entry, container⟩ := visit
  cases entry with
  | node other => rfl
  | reference other =>
    have hindex : other.index ≠ id.index := by
      rintro heq
      exact h (congrArg Entry.reference (congrArg ReferenceId.mk heq))
    simp [record, reference?, Array.getElem?_modify, hindex]

/-! ## Recording several stops -/

theorem unlinked_foldl_record (tree : LinkedTree) (visits : List Visit) :
    (visits.foldl record tree).unlinked = tree.unlinked := by
  induction visits generalizing tree with
  | nil => rfl
  | cons visit rest ih => rw [List.foldl_cons, ih, unlinked_record]

theorem node?_foldl_record_of_not_mem {id : NodeId} (h : .node id ∉ visits.map Visit.entry) :
    (visits.foldl record tree).node? id = tree.node? id := by
  induction visits generalizing tree with
  | nil => rfl
  | cons visit rest ih =>
    rw [List.map_cons, List.mem_cons, not_or] at h
    rw [List.foldl_cons, ih h.2, node?_record_of_ne (Ne.symm h.1)]

theorem reference?_foldl_record_of_not_mem {id : ReferenceId}
    (h : .reference id ∉ visits.map Visit.entry) :
    (visits.foldl record tree).reference? id = tree.reference? id := by
  induction visits generalizing tree with
  | nil => rfl
  | cons visit rest ih =>
    rw [List.map_cons, List.mem_cons, not_or] at h
    rw [List.foldl_cons, ih h.2, reference?_record_of_ne (Ne.symm h.1)]

/-- A stop among several, no entry coming twice, comes after some and before others of other entries. -/
theorem split_at_visit (hnodup : (visits.map Visit.entry).Nodup) (hmem : visit ∈ visits) :
    ∃ before after, visits = before ++ visit :: after ∧
      visit.entry ∉ before.map Visit.entry ∧ visit.entry ∉ after.map Visit.entry := by
  obtain ⟨before, after, rfl⟩ := List.append_of_mem hmem
  rw [List.map_append, List.map_cons, List.nodup_append', List.nodup_cons] at hnodup
  exact ⟨before, after, rfl, fun h => hnodup.2.2 h List.mem_cons_self, hnodup.2.1.1⟩

theorem node?_foldl_record_of_mem {id : NodeId} {container : Option Container}
    (hnodup : (visits.map Visit.entry).Nodup) (hmem : ⟨.node id, container⟩ ∈ visits) :
    (visits.foldl record tree).node? id =
      (tree.node? id).map fun node => { node with container := container } := by
  obtain ⟨before, after, rfl, hbefore, hafter⟩ := split_at_visit hnodup hmem
  rw [List.foldl_append, List.foldl_cons, node?_foldl_record_of_not_mem hafter, node?_record_self,
    node?_foldl_record_of_not_mem hbefore]

/-- The target recorded is that of the tree before, for recording does not change where paths lead. -/
theorem reference?_foldl_record_of_mem {id : ReferenceId} {container : Option Container}
    (hnodup : (visits.map Visit.entry).Nodup) (hmem : ⟨.reference id, container⟩ ∈ visits) :
    (visits.foldl record tree).reference? id =
      (tree.reference? id).map fun reference =>
        { reference with target := tree.resolve? reference.path } := by
  obtain ⟨before, after, rfl, hbefore, hafter⟩ := split_at_visit hnodup hmem
  have hresolve : (before.foldl record tree).resolve? = tree.resolve? :=
    funext (resolve?_eq_of_unlinked_eq (unlinked_foldl_record tree before))
  rw [List.foldl_append, List.foldl_cons, reference?_foldl_record_of_not_mem hafter,
    reference?_record_self, reference?_foldl_record_of_not_mem hbefore, hresolve]

end LinkedTree

/-! ## The loop -/

/-- Linking makes the stops of the walk through the tree that it started with. -/
theorem Linking.run_eq (steps : Nat) (tree : LinkedTree) (due : List Visit) :
    Linking.run steps ⟨tree, due⟩ =
      ⟨(Traversal.visits tree steps ⟨due⟩).foldl LinkedTree.record tree,
        (Traversal.after tree steps ⟨due⟩).pending⟩ := by
  induction steps generalizing tree due with
  | zero => rfl
  | succ steps ih =>
    cases due with
    | nil => rfl
    | cons visit rest =>
      have hunlinked := tree.unlinked_record visit
      have hbelow := LinkedTree.below_eq_of_unlinked_eq hunlinked visit.entry
      change Linking.run steps ⟨tree.record visit, (tree.record visit).below visit.entry ++ rest⟩ = _
      rw [ih, hbelow, Traversal.visits_eq_of_unlinked_eq hunlinked,
        Traversal.after_eq_of_unlinked_eq hunlinked, Traversal.visits_of_due,
        Traversal.after_of_due, List.foldl_cons]

namespace LinkedTree

theorem run_start (tree : LinkedTree) (steps : Nat) :
    Linking.run steps (.start tree) =
      ⟨(tree.traversal.visits tree steps).foldl record tree,
        (Traversal.after tree steps tree.traversal).pending⟩ :=
  Linking.run_eq steps tree _

theorem link_eq (tree : LinkedTree) : tree.link = tree.visits.foldl record tree := by
  rw [link, run_start]
  rfl

theorem unlinked_run (tree : LinkedTree) (steps : Nat) :
    (Linking.run steps (.start tree)).tree.unlinked = tree.unlinked := by
  rw [run_start]
  exact unlinked_foldl_record tree _

theorem unlinked_link (tree : LinkedTree) : tree.link.unlinked = tree.unlinked :=
  tree.unlinked_run _

theorem visits_link (tree : LinkedTree) : tree.link.visits = tree.visits := by
  have hunlinked := tree.unlinked_link
  simp only [visits, Traversal.rest, traversal, root_eq_of_unlinked_eq hunlinked,
    entryCount_eq_of_unlinked_eq hunlinked]
  exact Traversal.visits_eq_of_unlinked_eq hunlinked _ _

theorem flatten_link (tree : LinkedTree) : tree.link.flatten = tree.flatten := by
  rw [flatten, visits_link, flatten]

namespace LaidOut

variable {tree : LinkedTree}

/-- The loop ends with nothing due. -/
theorem linking_ends (h : tree.LaidOut) :
    (Linking.run tree.entryCount (.start tree)).pending = [] := by
  rw [run_start]
  exact h.walk_ends

theorem node?_link_of_visited (h : tree.LaidOut) {id : NodeId} {container : Option Container}
    (hmem : ⟨.node id, container⟩ ∈ tree.visits) :
    tree.link.node? id =
      (tree.node? id).map fun node => { node with container := container } := by
  rw [link_eq]
  exact node?_foldl_record_of_mem h.nodup_visits hmem

theorem reference?_link_of_visited (h : tree.LaidOut) {id : ReferenceId}
    (hmem : .reference id ∈ tree.flatten) :
    tree.link.reference? id =
      (tree.reference? id).map fun reference =>
        { reference with target := tree.resolve? reference.path } := by
  obtain ⟨⟨entry, container⟩, hvisit, rfl⟩ := List.mem_map.mp hmem
  rw [link_eq]
  exact reference?_foldl_record_of_mem h.nodup_visits hvisit

end LaidOut

theorem node?_link_of_not_visited {tree : LinkedTree} {id : NodeId}
    (h : .node id ∉ tree.flatten) : tree.link.node? id = tree.node? id := by
  rw [link_eq]
  exact node?_foldl_record_of_not_mem h

theorem reference?_link_of_not_visited {tree : LinkedTree} {id : ReferenceId}
    (h : .reference id ∉ tree.flatten) : tree.link.reference? id = tree.reference? id := by
  rw [link_eq]
  exact reference?_foldl_record_of_not_mem h

namespace LaidOut

variable {tree : LinkedTree} {id : ReferenceId} {reference : Reference}

/-- A reference on the walk has the target that its path has in the finished tree. -/
theorem target_of_visited (h : tree.LaidOut) (hmem : .reference id ∈ tree.flatten)
    (hreference : tree.link.reference? id = some reference) :
    reference.target = tree.link.resolve? reference.path := by
  rw [h.reference?_link_of_visited hmem, Option.map_eq_some_iff] at hreference
  obtain ⟨built, _, rfl⟩ := hreference
  exact (resolve?_eq_of_unlinked_eq tree.unlinked_link _).symm

/-- A reference that the walk does not meet has no target. -/
theorem target_of_not_visited (hfresh : tree.unlinked = tree) (hmem : .reference id ∉ tree.flatten)
    (hreference : tree.link.reference? id = some reference) : reference.target = none := by
  rw [reference?_link_of_not_visited hmem] at hreference
  exact target_of_unlinked hfresh hreference

end LaidOut

/-! ## Linked trees -/

theorem ofJson_object (conventions : Conventions) (fields : List (String × Json)) :
    ofJson conventions (.object fields) = .ok (conventions.build fields).link := rfl

theorem linked_laidOut (conventions : Conventions) (fields : List (String × Json)) :
    (conventions.build fields).link.LaidOut :=
  (conventions.build_laidOut fields).of_unlinked_eq (unlinked_link _).symm

/-- **Every reference on the walk has the target that its path has in the finished tree, every other
reference has none, and nothing but containers and targets changes.**  The walk meets just what is
reached through slots, the loop comes to its end, and at all its moments paths lead to the same
nodes. -/
theorem references_resolved (conventions : Conventions) (fields : List (String × Json)) :
    ∃ tree, ofJson conventions (.object fields) = .ok tree ∧
      tree.unlinked = conventions.build fields ∧
      (∀ id, .reference id ∈ tree.flatten → ∃ reference, tree.reference? id = some reference ∧
        reference.target = tree.resolve? reference.path) ∧
      (∀ id reference, tree.reference? id = some reference → .reference id ∉ tree.flatten →
        reference.target = none) ∧
      (∀ entry, entry ∈ tree.flatten ↔ tree.Reached entry) ∧
      (∀ steps path, (Linking.run steps (.start (conventions.build fields))).tree.resolve? path =
        tree.resolve? path) ∧
      (Linking.run (conventions.build fields).entryCount
        (.start (conventions.build fields))).pending = [] := by
  have hbuilt := conventions.build_laidOut fields
  have hlinked := linked_laidOut conventions fields
  have hfresh := conventions.unlinked_build fields
  have hunlinked := (conventions.build fields).unlinked_link
  refine ⟨_, ofJson_object conventions fields, hunlinked.trans hfresh, ?_, ?_,
    fun entry => hlinked.mem_flatten_iff, ?_, hbuilt.linking_ends⟩
  · intro id hmem
    obtain ⟨reference, hreference⟩ := reference?_of_inArena (hlinked.inArena_of_mem_flatten hmem)
    rw [flatten_link] at hmem
    exact ⟨reference, hreference, hbuilt.target_of_visited hmem hreference⟩
  · intro id reference hreference hmem
    rw [flatten_link] at hmem
    exact LaidOut.target_of_not_visited hfresh hmem hreference
  · intro steps path
    exact resolve?_eq_of_unlinked_eq ((unlinked_run _ steps).trans hunlinked.symm) path

end LinkedTree

end EditorBridge
