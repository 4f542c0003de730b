import EditorBridge.Json.Number
/-!
JSON values.  An object is a list of fields in the order they were written; a text may repeat a key,
and `Json.merged` is the reading in which the last value of a key stands at the place of the first.
-/

set_option autoImplicit false

namespace EditorBridge

/-- A JSON value. -/
inductive Json
  | null
  | bool (value : Bool)
  | number (value : Number)
  | string (value : String)
  | array (items : List Json)
  | object (fields : List (String × Json))
deriving Inhabited, Repr

namespace Json

/-! ## Fields -/

/-- The first value under a key. -/
def lookup {α : Type} (fields : List (String × α)) (key : String) : Option α :=
  (fields.find? fun field => field.1 == key).map (·.2)

/-- Sets the value of a key: in place if the key is there, at the end otherwise. -/
def put {α : Type} : List (String × α) → String → α → List (String × α)
  | [], key, value => [(key, value)]
  | field :: rest, key, value =>
    if field.1 == key then (key, value) :: rest else field :: put rest key value

def asString? : Json → Option String
  | string value => some value
  | _ => none

/-- A number that counts something. -/
def ofNat (n : Nat) : Json := number (.integer n)

/-- The text, or null where there is none. -/
def ofOption (text : Option String) : Json := text.elim null string

/-! ## Depth -/

mutual
/-- How deeply a value is nested; a value without parts has depth one. -/
def depth : Json → Nat
  | array items => depthItems items + 1
  | object fields => depthFields fields + 1
  | _ => 1
termination_by structural value => value

def depthItems : List Json → Nat
  | [] => 0
  | item :: rest => max (depth item) (depthItems rest)
termination_by structural items => items

def depthFields : List (String × Json) → Nat
  | [] => 0
  | (_, value) :: rest => max (depth value) (depthFields rest)
termination_by structural fields => fields
end

/-! ## Repeated keys -/

mutual
/-- The value with every repeated key merged, at any depth. -/
def merged : Json → Json
  | array items => array (mergedItems items)
  | object fields => object (mergedFields [] fields)
  | value => value
termination_by structural value => value

/-- The items with every repeated key merged. -/
def mergedItems : List Json → List Json
  | [] => []
  | item :: rest => merged item :: mergedItems rest
termination_by structural items => items

/-- Adds the fields to those collected so far, a later value replacing an earlier one. -/
def mergedFields (collected : List (String × Json)) : List (String × Json) → List (String × Json)
  | [] => collected
  | (key, value) :: rest => mergedFields (put collected key (merged value)) rest
termination_by structural fields => fields
end

end Json

end EditorBridge
