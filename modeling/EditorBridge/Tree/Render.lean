import EditorBridge.Tree.Basic
/-!
Rendering a tree back into JSON.  The container of a node is implied by nesting; what is written of it
is the property and the index.
-/

set_option autoImplicit false

namespace EditorBridge

namespace Value

mutual
/-- The JSON of a value, given the JSON of the entries in it. -/
def toJson (entry : Entry → Json) : Value → Json
  | null => .null
  | bool value => .bool value
  | number value => .number value
  | string value => .string value
  | array items => .array (itemsToJson entry items)
  | record fields => .object (fieldsToJson entry [] fields)
  | node id => entry (.node id)
  | reference id => entry (.reference id)
termination_by structural value => value

def itemsToJson (entry : Entry → Json) : List Value → List Json
  | [] => []
  | item :: rest => toJson entry item :: itemsToJson entry rest
termination_by structural items => items

/-- Adds properties to the fields written so far. -/
def fieldsToJson (entry : Entry → Json) (written : List (String × Json)) :
    List (String × Value) → List (String × Json)
  | [] => written
  | (name, value) :: rest => fieldsToJson entry (Json.put written name (toJson entry value)) rest
termination_by structural fields => fields
end

end Value

namespace Container

/-- The fields that are written about a node's container. -/
def fields (container : Container) : List (String × Json) :=
  (containerPropertyField, .string container.property) ::
    (container.index.map fun index => (containerIndexField, Json.ofNat index)).toList

end Container

namespace LinkedTree

/-- The fields written before the properties of an entry. -/
def header (tree : LinkedTree) : Entry → List (String × Json)
  | .node id =>
    match tree.node? id with
    | none => []
    | some node =>
      (node.kind.map fun kind => (tree.conventions.typeField, Json.string kind)).toList ++
        (node.container.map Container.fields).getD []
  | .reference id =>
    match tree.reference? id with
    | none => []
    | some reference => [(tree.conventions.refField, .string reference.path)]

def entryProperties (tree : LinkedTree) : Entry → Properties
  | .node id => ((tree.node? id).map Node.properties).getD []
  | .reference id => ((tree.reference? id).map Reference.properties).getD []

/-- The JSON of an entry, its entries rendered at most `depth` deep. -/
def entryToJson (tree : LinkedTree) : Nat → Entry → Json
  | 0, _ => .null
  | depth + 1, entry =>
    let header := (tree.header entry).foldl (fun written (name, value) => Json.put written name value) []
    .object (Value.fieldsToJson (tree.entryToJson depth) header (tree.entryProperties entry))

/-- The JSON of the whole tree.  Entries cannot be nested deeper than there are entries. -/
def toJson (tree : LinkedTree) : Json := tree.entryToJson tree.entryCount (.node tree.root)

end LinkedTree

end EditorBridge
