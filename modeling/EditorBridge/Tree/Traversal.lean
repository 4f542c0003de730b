import EditorBridge.Tree.Basic
/-!
The walk through a tree, in pre-order from the root: a node comes before what its slots hold, and
slots come in order.  `Traversal` is a walk that can be stopped and taken up again.
-/

set_option autoImplicit false

namespace EditorBridge

/-- A stop of the walk: an entry and where it is held.  The root is held nowhere. -/
structure Visit where
  entry : Entry
  container : Option Container
deriving DecidableEq, Repr

/-- A walk in progress: the stops that are due, the next one first. -/
structure Traversal where
  pending : List Visit
deriving DecidableEq, Repr

namespace LinkedTree

/-- The stops directly below an entry. -/
def below (tree : LinkedTree) : Entry → List Visit
  | .node id =>
    match tree.node? id with
    | none => []
    | some node => node.slots.map fun slot => ⟨slot.entry, some ⟨id, slot.property, slot.index⟩⟩
  | .reference _ => []

/-- The walk that starts at the root. -/
def traversal (tree : LinkedTree) : Traversal := ⟨[⟨.node tree.root, none⟩]⟩

end LinkedTree

namespace Traversal

/-- The next stop and the walk after it. -/
def next? (tree : LinkedTree) : Traversal → Option (Visit × Traversal)
  | ⟨[]⟩ => none
  | ⟨visit :: rest⟩ => some (visit, ⟨tree.below visit.entry ++ rest⟩)

/-- The stops of a walk, at most `steps` of them. -/
def visits (tree : LinkedTree) : Nat → Traversal → List Visit
  | 0, _ => []
  | steps + 1, walk =>
    match walk.next? tree with
    | none => []
    | some (visit, walk) => visit :: visits tree steps walk

/-- All stops that a walk has left.  Every entry is held in one place, so no walk is longer than the
number of entries. -/
def rest (walk : Traversal) (tree : LinkedTree) : List Visit := walk.visits tree tree.entryCount

end Traversal

namespace LinkedTree

/-- All stops of the walk. -/
def visits (tree : LinkedTree) : List Visit := tree.traversal.rest tree

/-- All nodes and references on the walk. -/
def flatten (tree : LinkedTree) : List Entry := tree.visits.map Visit.entry

end LinkedTree

end EditorBridge
