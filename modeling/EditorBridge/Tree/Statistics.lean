import EditorBridge.Tree.Traversal
/-!
Counting what a walk meets: nodes, references, resolved and unresolved ones, and nodes per kind.
-/

set_option autoImplicit false

namespace EditorBridge

/-- The counts of a tree; kinds are in increasing order. -/
structure Statistics where
  nodes : Nat := 0
  references : Nat := 0
  resolved : Nat := 0
  unresolved : Nat := 0
  kinds : List (String × Nat) := []
deriving DecidableEq, Repr

namespace Statistics

/-- Adds one to the count of a kind, keeping kinds in increasing order. -/
def countKind (kind : String) : List (String × Nat) → List (String × Nat)
  | [] => [(kind, 1)]
  | (other, count) :: rest =>
    if kind = other then (other, count + 1) :: rest
    else if kind < other then (kind, 1) :: (other, count) :: rest
    else (other, count) :: countKind kind rest

def count (tree : LinkedTree) (counts : Statistics) : Entry → Statistics
  | .node id =>
    let kind := ((tree.node? id).map Node.kindName).getD ""
    { counts with nodes := counts.nodes + 1, kinds := countKind kind counts.kinds }
  | .reference id =>
    if ((tree.reference? id).map Reference.isResolved).getD false then
      { counts with references := counts.references + 1, resolved := counts.resolved + 1 }
    else { counts with references := counts.references + 1, unresolved := counts.unresolved + 1 }

def toJson (counts : Statistics) : Json :=
  .object [("nodes", .ofNat counts.nodes), ("references", .ofNat counts.references),
    ("resolved", .ofNat counts.resolved), ("unresolved", .ofNat counts.unresolved),
    ("kinds", .object (counts.kinds.map fun (kind, count) => (kind, Json.ofNat count)))]

/-- The counts as lines of text. -/
def text (counts : Statistics) : String :=
  "nodes\t" ++ toString counts.nodes ++ "\n" ++
  "references\t" ++ toString counts.references ++ " (" ++ toString counts.resolved ++
    " resolved, " ++ toString counts.unresolved ++ " unresolved)\n" ++
  String.join (counts.kinds.map fun (kind, count) => "  " ++ kind ++ "\t" ++ toString count ++ "\n")

end Statistics

/-- The counts of everything on the walk. -/
def LinkedTree.statistics (tree : LinkedTree) : Statistics :=
  tree.flatten.foldl (Statistics.count tree) {}

end EditorBridge
