import EditorBridge.Tree.Conventions
/-!
Linked trees.  Nodes and references live in two arenas and are named by handles; a value holds
another node or reference by its handle, and a node's way back to its container is a handle too.
-/

set_option autoImplicit false

namespace EditorBridge

/-! ## Handles and values -/

/-- The handle of a node. -/
structure NodeId where
  index : Nat
deriving DecidableEq, Repr, Inhabited

/-- The handle of a reference. -/
structure ReferenceId where
  index : Nat
deriving DecidableEq, Repr, Inhabited

namespace NodeId

def name (id : NodeId) : String := "node" ++ toString id.index

end NodeId

namespace ReferenceId

def name (id : ReferenceId) : String := "ref" ++ toString id.index

end ReferenceId

/-- A value held by a property.  A record is an object that is neither a node nor a reference. -/
inductive Value
  | null
  | bool (value : Bool)
  | number (value : Number)
  | string (value : String)
  | array (items : List Value)
  | record (fields : List (String × Value))
  | node (id : NodeId)
  | reference (id : ReferenceId)
deriving Inhabited, Repr

/-- Properties in the order of the document. -/
abbrev Properties : Type := List (String × Value)

namespace Value

def asNode? : Value → Option NodeId
  | node id => some id
  | _ => none

def asReference? : Value → Option ReferenceId
  | reference id => some id
  | _ => none

def asString? : Value → Option String
  | string value => some value
  | _ => none

def asArray? : Value → Option (List Value)
  | array items => some items
  | _ => none

mutual
/-- Equality of values, except that the two floating point zeros agree. -/
def agrees : Value → Value → Bool
  | null, null => true
  | bool a, bool b => a == b
  | number a, number b => a.agrees b
  | string a, string b => a == b
  | array a, array b => itemsAgree a b
  | record a, record b => fieldsAgree a b
  | node a, node b => a == b
  | reference a, reference b => a == b
  | _, _ => false
termination_by structural value => value

/-- Agreement of items one by one. -/
def itemsAgree : List Value → List Value → Bool
  | [], [] => true
  | a :: as, b :: bs => agrees a b && itemsAgree as bs
  | _, _ => false
termination_by structural items => items

/-- Agreement of properties one by one, names included. -/
def fieldsAgree : List (String × Value) → List (String × Value) → Bool
  | [], [] => true
  | (name, a) :: as, (name', b) :: bs => name == name' && agrees a b && fieldsAgree as bs
  | _, _ => false
termination_by structural fields => fields
end

end Value

/-! ## Nodes and references -/

/-- A node or reference held directly by a property, or directly by a list in a property. -/
inductive Entry
  | node (id : NodeId)
  | reference (id : ReferenceId)
deriving DecidableEq, Repr

namespace Entry

def name : Entry → String
  | node id => id.name
  | reference id => id.name

end Entry

/-- A place in which a node holds an entry. -/
structure Slot where
  property : String
  /-- The place in the list, if the property holds one. -/
  index : Option Nat
  entry : Entry
deriving DecidableEq, Repr

/-- Where a node is held. -/
structure Container where
  node : NodeId
  property : String
  index : Option Nat
deriving DecidableEq, Repr

/-- A node. -/
structure Node where
  /-- The kind; only a root object without a type field has none. -/
  kind : Option String
  properties : Properties
  /-- Where the node is held; absent for the root and for nodes that linking does not reach. -/
  container : Option Container
deriving Inhabited

/-- A reference to a node by path. -/
structure Reference where
  path : String
  /-- The remaining fields of the reference object. -/
  properties : Properties
  /-- The node the path leads to, if it leads to one. -/
  target : Option NodeId
deriving Inhabited

namespace Value

def asEntry? : Value → Option Entry
  | node id => some (.node id)
  | reference id => some (.reference id)
  | _ => none

/-- The slots of a property of this value. -/
def slots (property : String) : Value → List Slot
  | array items => items.zipIdx.filterMap fun (item, index) =>
      item.asEntry?.map fun entry => ⟨property, some index, entry⟩
  | value => value.asEntry?.toList.map fun entry => ⟨property, none, entry⟩

end Value

namespace Node

/-- The kind of a node, empty if it has none. -/
def kindName (node : Node) : String := node.kind.getD ""

def property? (node : Node) (name : String) : Option Value := Json.lookup node.properties name

/-- The slots of a node in the order of its properties.  What is nested deeper than one list, or
inside plain records, is not in a slot. -/
def slots (node : Node) : List Slot :=
  node.properties.flatMap fun (name, value) => value.slots name

/-- Equality of nodes up to the sign of zeros. -/
def agrees (a b : Node) : Bool :=
  a.kind == b.kind && Value.fieldsAgree a.properties b.properties && a.container == b.container

end Node

namespace Reference

def property? (reference : Reference) (name : String) : Option Value :=
  Json.lookup reference.properties name

/-- Whether the path led to a node. -/
def isResolved (reference : Reference) : Bool := reference.target.isSome

/-- Equality of references up to the sign of zeros. -/
def agrees (a b : Reference) : Bool :=
  a.path == b.path && Value.fieldsAgree a.properties b.properties && a.target == b.target

end Reference

/-! ## Trees -/

/-- A tree with its arenas. -/
structure LinkedTree where
  conventions : Conventions
  nodes : Array Node
  references : Array Reference
  root : NodeId

namespace LinkedTree

def node? (tree : LinkedTree) (id : NodeId) : Option Node := tree.nodes[id.index]?

def reference? (tree : LinkedTree) (id : ReferenceId) : Option Reference :=
  tree.references[id.index]?

/-- The number of entries, an upper bound for the steps of any walk. -/
def entryCount (tree : LinkedTree) : Nat := tree.nodes.size + tree.references.size

/-- The node held by a property of a node, at an index if the property holds a list. -/
def child? (tree : LinkedTree) (id : NodeId) (property : String) (index : Option Nat) :
    Option NodeId := do
  let value ← (← tree.node? id).property? property
  match index with
  | some index => (← (← value.asArray?)[index]?).asNode?
  | none => value.asNode?

/-- The target of the reference held by a property of a node. -/
def target? (tree : LinkedTree) (id : NodeId) (property : String) : Option NodeId := do
  let reference ← (← (← tree.node? id).property? property).asReference?
  (← tree.reference? reference).target

/-- Equality of trees up to the sign of zeros. -/
def agrees (a b : LinkedTree) : Bool :=
  a.conventions == b.conventions && a.root == b.root &&
  a.nodes.size == b.nodes.size && (a.nodes.zip b.nodes).all (fun (a, b) => a.agrees b) &&
  a.references.size == b.references.size &&
  (a.references.zip b.references).all fun (a, b) => a.agrees b

end LinkedTree

end EditorBridge
