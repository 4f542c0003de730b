import EditorBridge.Tree.Traversal
/-!
The containment graph of a tree, its nodes numbered in the order of the walk, and its text in the dot
language.  References are not edges.
-/

set_option autoImplicit false

namespace EditorBridge

/-- A node of the graph. -/
structure GraphNode where
  /-- The number of the node in the order of the walk. -/
  id : Nat
  kind : String
  /-- The node of the tree it stands for. -/
  node : NodeId
deriving DecidableEq, Repr

/-- An edge from a container to what it holds. -/
structure GraphEdge where
  source : Nat
  target : Nat
deriving DecidableEq, Repr

/-- A containment graph. -/
structure ContainmentGraph where
  nodes : List GraphNode
  edges : List GraphEdge
deriving DecidableEq, Repr

namespace ContainmentGraph

/-- The number of a tree node among the nodes listed so far. -/
def idOf? (nodes : List GraphNode) (id : NodeId) : Option Nat :=
  (nodes.find? fun node => node.node == id).map GraphNode.id

/-- Adds a node of the tree, with the edge from its container if that has been added before. -/
def add (tree : LinkedTree) (graph : ContainmentGraph) (id : NodeId) : ContainmentGraph :=
  let node := tree.node? id
  let number := graph.nodes.length
  let edge := (do idOf? graph.nodes (← (← node).container).node : Option Nat)
  { nodes := graph.nodes ++ [⟨number, (node.map Node.kindName).getD "", id⟩]
    edges := graph.edges ++ (edge.map fun source => ⟨source, number⟩).toList }

def toJson (graph : ContainmentGraph) : Json :=
  .object [
    ("nodes", .array (graph.nodes.map fun node =>
      .object [("id", .ofNat node.id), ("kind", .string node.kind)])),
    ("edges", .array (graph.edges.map fun edge =>
      .object [("from", .ofNat edge.source), ("to", .ofNat edge.target)]))]

/-! ## Text in the dot language -/

/-- The form of one character of a label. -/
def labelEscape (c : Char) : List Char :=
  if c = '"' || c = '\\' then ['\\', c]
  else if c = '\n' then ['\\', 'n']
  else [c]

/-- A label between quotes. -/
def label (text : String) : String :=
  String.ofList ('"' :: text.toList.flatMap labelEscape ++ ['"'])

def nodeLine (node : GraphNode) : String :=
  "    " ++ toString node.id ++ " [label=" ++ label node.kind ++ "]\n"

def edgeLine (edge : GraphEdge) : String :=
  "    " ++ toString edge.source ++ " -> " ++ toString edge.target ++ "\n"

/-- The graph in the dot language. -/
def toDot (graph : ContainmentGraph) : String :=
  "strict digraph \x7b\n" ++ String.join (graph.nodes.map nodeLine) ++
    String.join (graph.edges.map edgeLine) ++ "\x7d\n"

end ContainmentGraph

def LinkedTree.walkedNodes (tree : LinkedTree) : List NodeId :=
  tree.flatten.filterMap fun
    | .node id => some id
    | .reference _ => none

def LinkedTree.containment (tree : LinkedTree) : ContainmentGraph :=
  tree.walkedNodes.foldl (ContainmentGraph.add tree) ⟨[], []⟩

end EditorBridge
