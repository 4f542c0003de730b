import EditorBridge.Proofs.Tree.Linking
import EditorBridge.Tree.Statistics
/-!
Counting.  Of every entry on the walk only a `Finding` is counted, and the counts do not depend on the
order of the findings (`Statistics.foldl_add_eq_of_perm`).  The findings of a linked tree can be read off
the tree that was built, by resolving paths in it (`LinkedTree.LaidOut.statistics_link`).
-/

set_option autoImplicit false

namespace EditorBridge

/-- What is counted of an entry: the kind of a node, or whether a reference leads to a node. -/
inductive Finding
  | node (kind : String)
  | reference (resolved : Bool)
deriving DecidableEq, Repr

namespace Statistics

/-- The counts with one finding more. -/
def add (counts : Statistics) : Finding → Statistics
  | .node kind =>
    { counts with nodes := counts.nodes + 1, kinds := countKind kind counts.kinds }
  | .reference true =>
    { counts with references := counts.references + 1, resolved := counts.resolved + 1 }
  | .reference false =>
    { counts with references := counts.references + 1, unresolved := counts.unresolved + 1 }

/-! ## The order of findings -/

/-- Two kinds may be counted in either order. -/
theorem countKind_comm (kind other : String) (kinds : List (String × Nat)) :
    countKind kind (countKind other kinds) = countKind other (countKind kind kinds) := by
  have hasymm : ∀ {a b : String}, a < b → ¬ b < a := String.lt_asymm
  have htrans : ∀ {a b c : String}, a < b → b < c → a < c := String.lt_trans
  have htotal : ∀ {a b : String}, ¬ a = b → ¬ a < b → b < a := fun hne hlt =>
    Std.lt_of_le_of_ne (String.not_lt.mp hlt) (Ne.symm hne)
  induction kinds with
  | nil => grind [countKind]
  | cons entry rest ih => grind [countKind]

theorem add_right_comm (counts : Statistics) (finding other : Finding) :
    (counts.add finding).add other = (counts.add other).add finding := by
  rcases finding with kind | _ | _ <;> rcases other with kind' | _ | _ <;>
    simp [add, countKind_comm]

/-- Counts do not depend on the order in which things are found. -/
theorem foldl_add_eq_of_perm {findings others : List Finding} (h : findings.Perm others)
    (counts : Statistics) : findings.foldl add counts = others.foldl add counts :=
  h.foldl_eq' (fun finding _ other _ counts => add_right_comm counts finding other) counts

end Statistics

namespace LinkedTree

/-! ## What is found -/

/-- What is counted of an entry. -/
def finding (tree : LinkedTree) : Entry → Finding
  | .node id => .node (((tree.node? id).map Node.kindName).getD "")
  | .reference id => .reference (((tree.reference? id).map Reference.isResolved).getD false)

theorem count_eq_add (tree : LinkedTree) (counts : Statistics) (entry : Entry) :
    Statistics.count tree counts entry = counts.add (tree.finding entry) := by
  cases entry with
  | node id => rfl
  | reference id =>
    rw [Statistics.count, finding]
    cases ((tree.reference? id).map Reference.isResolved).getD false <;> rfl

theorem statistics_eq_foldl_add (tree : LinkedTree) :
    tree.statistics = (tree.flatten.map tree.finding).foldl Statistics.add {} := by
  rw [statistics, List.foldl_map]
  congr
  funext counts entry
  exact count_eq_add tree counts entry

/-- What will be counted of an entry once it is linked. -/
def prospect (tree : LinkedTree) : Entry → Finding
  | .node id => .node (((tree.node? id).map Node.kindName).getD "")
  | .reference id =>
    .reference ((tree.reference? id).bind fun reference => tree.resolve? reference.path).isSome

theorem kindName_eq_of_unlinked_eq {a b : LinkedTree} (h : a.unlinked = b.unlinked) (id : NodeId) :
    (a.node? id).map Node.kindName = (b.node? id).map Node.kindName := by
  have hkind : ∀ tree : LinkedTree,
      (tree.unlinked.node? id).map Node.kindName = (tree.node? id).map Node.kindName := by
    intro tree
    rw [node?_unlinked, Option.map_map]
    rfl
  rw [← hkind a, h, hkind]

namespace LaidOut

variable {tree : LinkedTree}

/-- On the walk, linking leads to what was to be expected. -/
theorem finding_link (h : tree.LaidOut) {entry : Entry} (hmem : entry ∈ tree.flatten) :
    tree.link.finding entry = tree.prospect entry := by
  cases entry with
  | node id => rw [finding, prospect, kindName_eq_of_unlinked_eq tree.unlinked_link]
  | reference id =>
    obtain ⟨reference, hreference⟩ := reference?_of_inArena (h.inArena_of_mem_flatten hmem)
    rw [finding, prospect, h.reference?_link_of_visited hmem, hreference]
    rfl

theorem statistics_link (h : tree.LaidOut) :
    tree.link.statistics = (tree.flatten.map tree.prospect).foldl Statistics.add {} := by
  rw [statistics_eq_foldl_add, flatten_link]
  exact congrArg _ (List.map_congr_left fun entry hmem => h.finding_link hmem)

end LaidOut

end LinkedTree

end EditorBridge
