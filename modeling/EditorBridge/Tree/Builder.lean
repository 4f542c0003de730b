import EditorBridge.Tree.Basic
/-!
Building a tree from JSON.  Every object is classified once: with a string under the reference field
it is a reference, with a string under the type field it is a node, and otherwise a plain record.
Node handles follow the order in which the objects open, reference handles the order in which they
close.
-/

set_option autoImplicit false

namespace EditorBridge

/-- What becomes of a piece of JSON: the value made of it, and the nodes and references in it, each
in the order of their handles. -/
structure Harvest (α : Type) where
  value : α
  nodes : List Node
  references : List Reference

namespace Harvest

/-- A value without nodes and references. -/
def plain {α : Type} (value : α) : Harvest α := ⟨value, [], []⟩

/-- The same nodes and references with another value. -/
def map {α β : Type} (f : α → β) (harvest : Harvest α) : Harvest β :=
  ⟨f harvest.value, harvest.nodes, harvest.references⟩

/-- Two harvests, the first one's nodes and references before the second one's. -/
def combine {α β γ : Type} (f : α → β → γ) (a : Harvest α) (b : Harvest β) : Harvest γ :=
  ⟨f a.value b.value, a.nodes ++ b.nodes, a.references ++ b.references⟩

/-- A node in front of the nodes of its properties. -/
def node (id : NodeId) (kind : Option String) (properties : Harvest Properties) : Harvest Value :=
  ⟨.node id, ⟨kind, properties.value, none⟩ :: properties.nodes, properties.references⟩

/-- A reference after the references of its properties, which number from `references` on. -/
def reference (references : Nat) (path : String) (properties : Harvest Properties) : Harvest Value :=
  ⟨.reference ⟨references + properties.references.length⟩, properties.nodes,
    properties.references ++ [⟨path, properties.value, none⟩]⟩

end Harvest

namespace Conventions

/-- The three things an object can be. -/
inductive ObjectClass
  | reference (path : String)
  | node (kind : String)
  | record
deriving DecidableEq, Repr

/-- Decides what an object is.  References take precedence over nodes. -/
def classify (conventions : Conventions) (fields : List (String × Json)) : ObjectClass :=
  match (Json.lookup fields conventions.refField).bind Json.asString? with
  | some path => .reference path
  | none =>
    match (Json.lookup fields conventions.typeField).bind Json.asString? with
    | some kind => .node kind
    | none => .record

/-- The field that an object's class takes out of its properties. -/
def markField (conventions : Conventions) : ObjectClass → Option String
  | .reference _ => some conventions.refField
  | .node _ => some conventions.typeField
  | .record => none

mutual
/-- The value made of a piece of JSON, given how many nodes and references precede it. -/
def harvest (conventions : Conventions) (nodes references : Nat) : Json → Harvest Value
  | .null => .plain .null
  | .bool value => .plain (.bool value)
  | .number value => .plain (.number value)
  | .string value => .plain (.string value)
  | .array items => (harvestItems conventions nodes references items).map .array
  | .object fields =>
    match conventions.classify fields with
    | .reference path => .reference references path
        (harvestFields conventions (some conventions.refField) nodes references fields)
    | .node kind => .node ⟨nodes⟩ (some kind)
        (harvestFields conventions (some conventions.typeField) (nodes + 1) references fields)
    | .record => (harvestFields conventions none nodes references fields).map .record
termination_by structural json => json

/-- The values made of items, one after the other. -/
def harvestItems (conventions : Conventions) (nodes references : Nat) :
    List Json → Harvest (List Value)
  | [] => .plain []
  | item :: rest =>
    let first := harvest conventions nodes references item
    .combine (· :: ·) first (harvestItems conventions (nodes + first.nodes.length)
      (references + first.references.length) rest)
termination_by structural items => items

/-- The properties made of fields, without container fields and without the field `skipped`. -/
def harvestFields (conventions : Conventions) (skipped : Option String) (nodes references : Nat) :
    List (String × Json) → Harvest Properties
  | [] => .plain []
  | (name, value) :: rest =>
    if isContainerField name || some name == skipped then
      harvestFields conventions skipped nodes references rest
    else
      let first := harvest conventions nodes references value
      .combine (fun value rest => (name, value) :: rest) first
        (harvestFields conventions skipped (nodes + first.nodes.length)
          (references + first.references.length) rest)
termination_by structural fields => fields
end

/-- The tree of a root object, not linked yet.  The root is a node even without a type field. -/
def build (conventions : Conventions) (fields : List (String × Json)) : LinkedTree :=
  let kind := (Json.lookup fields conventions.typeField).bind Json.asString?
  let root := Harvest.node ⟨0⟩ kind
    (conventions.harvestFields (some conventions.typeField) 1 0 fields)
  ⟨conventions, root.nodes.toArray, root.references.toArray, ⟨0⟩⟩

end Conventions

end EditorBridge
