import EditorBridge.Tree.Linker
/-!
What linking leaves alone.  `LinkedTree.unlinked` forgets the containers and the targets; slots, child
look-ups and paths depend on nothing else, and recording a stop of the walk does not change it.
-/

set_option autoImplicit false

namespace EditorBridge

def Node.unlinked (node : Node) : Node := { node with container := none }

def Reference.unlinked (reference : Reference) : Reference := { reference with target := none }

namespace LinkedTree

/-- The tree without containers and targets. -/
def unlinked (tree : LinkedTree) : LinkedTree :=
  { tree with
    nodes := tree.nodes.map Node.unlinked
    references := tree.references.map Reference.unlinked }

/-! ## What depends on the unlinked tree only -/

theorem node?_unlinked (tree : LinkedTree) (id : NodeId) :
    tree.unlinked.node? id = (tree.node? id).map Node.unlinked := by
  simp [unlinked, node?]

theorem reference?_unlinked (tree : LinkedTree) (id : ReferenceId) :
    tree.unlinked.reference? id = (tree.reference? id).map Reference.unlinked := by
  simp [unlinked, reference?]

theorem container_of_unlinked {tree : LinkedTree} (h : tree.unlinked = tree) {id : NodeId}
    {node : Node} (hnode : tree.node? id = some node) : node.container = none := by
  have hsame := tree.node?_unlinked id
  rw [h, hnode] at hsame
  exact congrArg Node.container (Option.some.inj hsame)

theorem target_of_unlinked {tree : LinkedTree} (h : tree.unlinked = tree) {id : ReferenceId}
    {reference : Reference} (hreference : tree.reference? id = some reference) :
    reference.target = none := by
  have hsame := tree.reference?_unlinked id
  rw [h, hreference] at hsame
  exact congrArg Reference.target (Option.some.inj hsame)

theorem entryCount_unlinked (tree : LinkedTree) : tree.unlinked.entryCount = tree.entryCount := by
  simp [unlinked, entryCount]

theorem below_unlinked (tree : LinkedTree) (entry : Entry) :
    tree.unlinked.below entry = tree.below entry := by
  cases entry with
  | reference id => rfl
  | node id =>
    simp only [below, node?_unlinked]
    cases tree.node? id <;> rfl

theorem child?_unlinked (tree : LinkedTree) (id : NodeId) (property : String)
    (index : Option Nat) : tree.unlinked.child? id property index = tree.child? id property index := by
  simp only [child?, node?_unlinked]
  cases tree.node? id <;> rfl

theorem propertiesOf?_unlinked (tree : LinkedTree) (value : Value) :
    tree.unlinked.propertiesOf? value = tree.propertiesOf? value := by
  cases value with
  | node id =>
    simp only [propertiesOf?, node?_unlinked, Option.map_map]
    rfl
  | _ => rfl

theorem follow?_unlinked (tree : LinkedTree) (value : Value) (segments : List Conventions.Segment) :
    tree.unlinked.follow? value segments = tree.follow? value segments := by
  have hstep : tree.unlinked.step? = tree.step? := by
    funext value segment
    simp only [step?, propertiesOf?_unlinked]
  simp only [follow?, hstep]

theorem resolve?_unlinked (tree : LinkedTree) (path : String) :
    tree.unlinked.resolve? path = tree.resolve? path := by
  simp only [resolve?, follow?_unlinked]
  rfl

theorem root_eq_of_unlinked_eq {a b : LinkedTree} (h : a.unlinked = b.unlinked) :
    a.root = b.root := by
  have hroot : a.unlinked.root = b.unlinked.root := by rw [h]
  exact hroot

theorem conventions_eq_of_unlinked_eq {a b : LinkedTree} (h : a.unlinked = b.unlinked) :
    a.conventions = b.conventions := by
  have hconventions : a.unlinked.conventions = b.unlinked.conventions := by rw [h]
  exact hconventions

/-- Trees that differ in containers and targets only have the same entries below an entry. -/
theorem below_eq_of_unlinked_eq {a b : LinkedTree} (h : a.unlinked = b.unlinked) (entry : Entry) :
    a.below entry = b.below entry := by
  rw [← below_unlinked a, h, below_unlinked]

theorem child?_eq_of_unlinked_eq {a b : LinkedTree} (h : a.unlinked = b.unlinked) (id : NodeId)
    (property : String) (index : Option Nat) :
    a.child? id property index = b.child? id property index := by
  rw [← child?_unlinked a, h, child?_unlinked]

theorem resolve?_eq_of_unlinked_eq {a b : LinkedTree} (h : a.unlinked = b.unlinked) (path : String) :
    a.resolve? path = b.resolve? path := by
  rw [← resolve?_unlinked a, h, resolve?_unlinked]

theorem entryCount_eq_of_unlinked_eq {a b : LinkedTree} (h : a.unlinked = b.unlinked) :
    a.entryCount = b.entryCount := by
  rw [← entryCount_unlinked a, h, entryCount_unlinked]

/-! ## Recording a stop -/

theorem map_modify_eq {α : Type} (items : Array α) (index : Nat) (change forget : α → α)
    (h : ∀ item, forget (change item) = forget item) :
    (items.modify index change).map forget = items.map forget := by
  apply Array.ext
  · simp
  · intro i h₁ h₂
    simp only [Array.getElem_map, Array.getElem_modify]
    split
    · exact h _
    · rfl

theorem unlinked_record (tree : LinkedTree) (visit : Visit) :
    (tree.record visit).unlinked = tree.unlinked := by
  obtain ⟨entry, container⟩ := visit
  cases entry with
  | node id =>
    have hnodes := map_modify_eq tree.nodes id.index
      (fun node => { node with container := container }) Node.unlinked fun _ => rfl
    simp only [record, unlinked, hnodes]
  | reference id =>
    have hreferences := map_modify_eq tree.references id.index
      (fun reference => { reference with target := tree.resolve? reference.path })
      Reference.unlinked fun _ => rfl
    simp only [record, unlinked, hreferences]

end LinkedTree

end EditorBridge
