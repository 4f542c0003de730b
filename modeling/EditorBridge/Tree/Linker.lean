import EditorBridge.Log
import EditorBridge.Tree.Builder
import EditorBridge.Tree.Traversal
/-!
Linking: the walk from the root gives every node it reaches its container and every reference it
reaches its target.
-/

set_option autoImplicit false

namespace EditorBridge

namespace LinkedTree

/-! ## Paths -/

/-- The properties by which a value can be followed. -/
def propertiesOf? (tree : LinkedTree) : Value → Option Properties
  | .node id => (tree.node? id).map Node.properties
  | .record fields => some fields
  | _ => none

/-- The value one step away. -/
def step? (tree : LinkedTree) (value : Value) (segment : Conventions.Segment) : Option Value := do
  let held ← Json.lookup (← tree.propertiesOf? value) segment.property
  match segment.index with
  | some index => (← held.asArray?)[index]?
  | none => some held

/-- The value that some steps lead to. -/
def follow? (tree : LinkedTree) (value : Value) (segments : List Conventions.Segment) :
    Option Value :=
  segments.foldlM tree.step? value

/-- The node that a path leads to from the root. -/
def resolve? (tree : LinkedTree) (path : String) : Option NodeId := do
  let segments ← tree.conventions.segments path
  (← tree.follow? (.node tree.root) segments).asNode?

/-! ## Linking -/

/-- Records what one stop of the walk has to say: a node's container, or a reference's target. -/
def record (tree : LinkedTree) (visit : Visit) : LinkedTree :=
  match visit.entry with
  | .node id =>
    { tree with nodes := tree.nodes.modify id.index fun node =>
        { node with container := visit.container } }
  | .reference id =>
    { tree with references := tree.references.modify id.index fun reference =>
        { reference with target := tree.resolve? reference.path } }

end LinkedTree

/-- Linking in progress: the tree so far, and the stops that are due, the next one first. -/
structure Linking where
  tree : LinkedTree
  pending : List Visit

namespace Linking

/-- Linking that starts at the root. -/
def start (tree : LinkedTree) : Linking := ⟨tree, tree.traversal.pending⟩

/-- Records the next stop; what is directly below it becomes due before all else. -/
def step? : Linking → Option Linking
  | ⟨_, []⟩ => none
  | ⟨tree, visit :: rest⟩ =>
    let tree := tree.record visit
    some ⟨tree, tree.below visit.entry ++ rest⟩

/-- Linking after at most `steps` stops. -/
def run : Nat → Linking → Linking
  | 0, linking => linking
  | steps + 1, linking =>
    match linking.step? with
    | none => linking
    | some linking => run steps linking

end Linking

namespace LinkedTree

/-- The tree with everything recorded that the walk meets. -/
def link (tree : LinkedTree) : LinkedTree := (Linking.run tree.entryCount (.start tree)).tree

/-- The log of linking: every node reached, and every reference that leads nowhere. -/
def linkLog (tree : LinkedTree) : List LogRecord :=
  tree.visits.filterMap fun visit =>
    match visit.entry with
    | .node id => (tree.node? id).map fun node =>
        ⟨.trace, source, "Linking " ++ id.name ++ " (" ++ node.kindName ++ ")"⟩
    | .reference id => (tree.reference? id).bind fun reference =>
        if (tree.resolve? reference.path).isSome then none
        else some ⟨.debug, source, "Unresolved reference " ++ Quoted.quote reference.path⟩
where
  /-- The part of the program that links. -/
  source : String := "weft_ast::link"

end LinkedTree

/-! ## Documents -/

/-- Why a document cannot be linked. -/
inductive LinkError
  | malformed (fault : Json.Fault)
  | rootNotRecord

namespace LinkError

def message : LinkError → String
  | malformed fault => "Malformed document\n" ++ fault.message
  | rootNotRecord => "Document root is not an object"

/-- The message of the cause, where there is one. -/
def cause : LinkError → Option String
  | malformed fault => some fault.message
  | rootNotRecord => none

end LinkError

namespace LinkedTree

/-- Links a JSON value whose objects do not repeat keys. -/
def ofJson (conventions : Conventions) : Json → Except LinkError LinkedTree
  | .object fields => .ok (conventions.build fields).link
  | _ => .error .rootNotRecord

/-- Links the tree that a text holds. -/
def parse (conventions : Conventions) (text : String) : Except LinkError LinkedTree :=
  match Json.parse text with
  | .ok json => ofJson conventions json
  | .error fault => .error (.malformed fault)

end LinkedTree

end EditorBridge
