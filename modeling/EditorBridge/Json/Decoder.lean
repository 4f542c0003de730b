import EditorBridge.Json.Parser
/-!
Decoders turn JSON into values of a type.  A `Decoder` has two readings that agree by construction:
`read` goes through a text and reports the first fault in it with its place, `decode` goes through a
value that is already in memory.  Both are built together from decoders of the parts.
-/

set_option autoImplicit false

namespace EditorBridge.Json

/-- A way to make a value of type `α` from JSON, given as text or as a value. -/
structure Decoder (α : Type) where
  /-- Reads from a text, with the number of brackets that may still be opened. -/
  read : Nat → Reader α
  /-- Reads from a value, whose objects may repeat keys. -/
  decode : Json → Except Mismatch α

namespace Decoder

/-! ## Single values -/

/-- A decoder for values that are neither lists nor objects. -/
def scalar {α : Type} (accept : Json → Except Mismatch α) : Decoder α where
  read _ := .located do
    match ← Reader.peekToken with
    | none => Reader.failHere .endInValue
    | some '[' => .ofExcept (accept (.array []))
    | some '{' => .ofExcept (accept (.object []))
    | some c => .ofExcept (accept (← Reader.scalar c))
  decode := accept

def string : Decoder String := scalar fun
  | .string value => .ok value
  | value => .error (.wrongType value "a string")

def bool : Decoder Bool := scalar fun
  | .bool value => .ok value
  | value => .error (.wrongType value "a boolean")

/-- A text of exactly one character. -/
def character : Decoder Char := scalar fun
  | .string text =>
    match text.toList with
    | [c] => .ok c
    | _ => .error (.wrongValue (.string text) "a character")
  | value => .error (.wrongType value "a character")

/-- An integer from `low` to `high`. -/
def integer (low high : Int) (name : String) : Decoder Int := scalar fun
  | .number (.integer value) =>
    if low ≤ value ∧ value ≤ high then .ok value
    else .error (.wrongValue (.number (.integer value)) name)
  | value => .error (.wrongType value name)

def unsigned32 : Decoder Int := integer 0 4294967295 "u32"

def signed32 : Decoder Int := integer (-2147483648) 2147483647 "i32"

/-- A decoder that takes in a whole value before it looks at any part of it. -/
def buffered {α : Type} (accept : Json → Except Mismatch α) : Decoder α where
  read depth := do .ofExcept (accept (← Reader.value depth))
  decode := accept

/-- Any value, repeated keys merged. -/
def any : Decoder Json := buffered fun value => .ok value.merged

/-- Null, or a value. -/
def option {α : Type} (inner : Decoder α) : Decoder (Option α) where
  read depth := do
    match ← Reader.peekToken with
    | some 'n' =>
      discard (Reader.scalar 'n')
      pure none
    | _ => return some (← inner.read depth)
  decode
    | .null => .ok none
    | value => some <$> inner.decode value

/-- Reads a value that ought to have been of another type. -/
def unexpected {α : Type} (expected : String) : Reader α := do
  match ← Reader.peekToken with
  | none => Reader.failHere .endInValue
  | some '[' => Reader.mismatch (.wrongType (.array []) expected)
  | some '{' => Reader.mismatch (.wrongType (.object []) expected)
  | some c => Reader.mismatch (.wrongType (← Reader.scalar c) expected)

def list {α : Type} (item : Decoder α) : Decoder (List α) where
  read depth := .located do
    match ← Reader.peekToken with
    | some '[' => Reader.list depth item.read
    | _ => unexpected "a sequence"
  decode
    | .array items => items.mapM item.decode
    | value => .error (.wrongType value "a sequence")

end Decoder

/-! ## Records -/

/-- What stands for a field that is not there. -/
inductive Absence (α : Type)
  /-- The field has to be there. -/
  | required
  /-- The field may be left out of an object. -/
  | optional (value : α)
  /-- The field may be left out of an object, and at the end of a list. -/
  | defaulted (value : α)

namespace Absence

/-- The value for a field left out of an object. -/
def inObject? {α : Type} : Absence α → Option α
  | required => none
  | optional value | defaulted value => some value

/-- The value for a field left out at the end of a list. -/
def inList? {α : Type} : Absence α → Option α
  | required | optional _ => none
  | defaulted value => some value

end Absence

/-- A field of a record. -/
structure Field (α : Type) where
  name : String
  decoder : Decoder α
  absence : Absence α := .required

/-- One component for each type of a list of types. -/
def Row (F : Type → Type) : List Type → Type
  | [] => Unit
  | α :: types => F α × Row F types

namespace Row

/-- No field found yet. -/
def empty : (types : List Type) → Row Option types
  | [] => ()
  | _ :: types => (none, empty types)

/-- The names of the fields in declaration order. -/
def names : {types : List Type} → Row Field types → List String
  | [], _ => []
  | _ :: _, (field, fields) => field.name :: names fields

/-- Whether a value has been found for the field of a name. -/
def isFilled : {types : List Type} → Row Field types → Row Option types → String → Bool
  | [], _, _, _ => false
  | _ :: _, (field, fields), (slot, slots), key =>
    if field.name == key then slot.isSome else isFilled fields slots key

/-- Fills the slot of the field of a name by running its decoder. -/
def fill {m : Type → Type} [Monad m] (run : {α : Type} → Decoder α → m α) :
    {types : List Type} → Row Field types → Row Option types → String → m (Row Option types)
  | [], _, _, _ => pure ()
  | _ :: _, (field, fields), (slot, slots), key =>
    if field.name == key then do
      let value ← run field.decoder
      pure (some value, slots)
    else do
      let slots ← fill run fields slots key
      pure (slot, slots)

/-- The values of all fields of an object; the first one that is missing without a substitute is
an error. -/
def complete : {types : List Type} → Row Field types → Row Option types → Except Mismatch (Row Id types)
  | [], _, _ => .ok ()
  | _ :: _, (field, fields), (slot, slots) => do
    match slot.orElse fun _ => field.absence.inObject? with
    | none => .error (.missingField field.name)
    | some value => return (value, ← complete fields slots)

/-- The values of all fields given one after the other; `next` yields the next one if there is any.
`count` fields have been read before, `expected` describes the whole. -/
def sequence {m : Type → Type} [Monad m] (next : {α : Type} → Decoder α → Bool → m (Option α))
    (fail : {α : Type} → Mismatch → m α) (expected : String) :
    {types : List Type} → Row Field types → Nat → m (Row Id types)
  | [], _, _ => pure ()
  | _ :: _, (field, fields), count => do
    let found ← next field.decoder (count == 0)
    match found.orElse fun _ => field.absence.inList? with
    | none => fail (.wrongLength count expected)
    | some value =>
      let values ← sequence next fail expected fields (count + 1)
      pure (value, values)

end Row

/-- A number of elements, in words. -/
def elements (count : Nat) : String :=
  toString count ++ (if count = 1 then " element" else " elements")

namespace Decoder

/-- The fields of an object, one after the other. -/
def recordFields {types : List Type} (fields : Row Field types) :
    List (String × Json) → Row Option types → Except Mismatch (Row Option types)
  | [], slots => .ok slots
  | (key, value) :: rest, slots =>
    if fields.isFilled slots key then .error (.duplicateField key)
    else do
      let slots ← fields.fill (fun decoder => decoder.decode value) slots key
      recordFields fields rest slots

/-- The items of a list that stands for a record. -/
def recordItems {types : List Type} (fields : Row Field types) (expected : String)
    (items : List Json) : Except Mismatch (Row Id types) := do
  let next {α : Type} (decoder : Decoder α) (_ : Bool) :
      StateT (List Json) (Except Mismatch) (Option α) := do
    match ← get with
    | [] => pure none
    | item :: rest =>
      set rest
      return some (← decoder.decode item)
  let (values, surplus) ← (fields.sequence (m := StateT (List Json) (Except Mismatch)) next
    (fun cause => throw cause) expected 0).run items
  if surplus.isEmpty then return values
  else
    let count := items.length - surplus.length
    throw (.wrongLength items.length (elements count ++ " in sequence"))

/-- A record, written as an object or as the list of its fields.  Unknown fields are passed over,
repeated ones are errors. -/
def record {α : Type} (types : List Type) (name : String) (fields : Row Field types)
    (build : Row Id types → α) : Decoder α where
  read depth := .located do
    match ← Reader.peekToken with
    | some '[' => Reader.nested depth fun depth => Reader.enclosed Reader.closeList do
      let next {β : Type} (decoder : Decoder β) (first : Bool) : Reader (Option β) := do
        if ← Reader.moreItems first then return some (← decoder.read depth) else pure none
      return build (← fields.sequence next (fun cause => Reader.mismatch cause) expected 0)
    | some '{' => Reader.nested depth fun depth => Reader.enclosed Reader.closeObject do
      let field (key : String) (slots : Row Option types) : Reader (Row Option types) := do
        if fields.isFilled slots key then Reader.mismatch (.duplicateField key)
        Reader.colon
        if fields.names.contains key then fields.fill (fun decoder => decoder.read depth) slots key
        else
          Reader.skip
          pure slots
      let slots ← Reader.objectRest field ((← Reader.remaining) + 1) true (Row.empty types)
      return build (← .ofExcept (fields.complete slots))
    | _ => unexpected name
  decode
    | .array items => build <$> recordItems fields expected items
    | .object given => do
      let slots ← recordFields fields given (Row.empty types)
      return build (← fields.complete slots)
    | value => .error (.wrongType value name)
where
  /-- What is expected of a list that stands for the record. -/
  expected : String := name ++ " with " ++ elements fields.names.length

/-! ## Variants -/

/-- One of the shapes a value can have, with the name that selects it. -/
structure Variant (α : Type) where
  name : String
  decode : Json → Except Mismatch α

/-- A variant whose content is that of a record. -/
def Variant.record {α : Type} (name title : String) (types : List Type) (fields : Row Field types)
    (build : Row Id types → α) : Variant α :=
  ⟨name, (Decoder.record types ("struct variant " ++ title) fields build).decode⟩

/-- The variant a value names. -/
def select {α : Type} (variants : List (Variant α)) : Json → Except Mismatch (Variant α)
  | .string name =>
    match variants.find? fun variant => variant.name == name with
    | some variant => .ok variant
    | none => .error (.unknownVariant name (variants.map Variant.name))
  | value => .error (.wrongType value "variant identifier")

/-- The variant a value names, or numbers from zero. -/
def selectByIndex {α : Type} (variants : List (Variant α)) : Json → Except Mismatch (Variant α)
  | .number (.integer index) =>
    if index < 0 then select variants (.number (.integer index))
    else
      match variants[index.toNat]? with
      | some variant => .ok variant
      | none => .error (.wrongValue (.number (.integer index))
          ("variant index 0 <= i < " ++ toString variants.length))
  | value => select variants value

/-- Splits the fields of an object into the selected variant and all others. -/
def splitTag {α : Type} (key : String) (variants : List (Variant α)) :
    List (String × Json) → Option (Variant α) → Except Mismatch (Option (Variant α) × List (String × Json))
  | [], found => .ok (found, [])
  | (name, value) :: rest, found =>
    if name == key then
      if found.isSome then .error (.duplicateField key)
      else do
        let variant ← selectByIndex variants value
        splitTag key variants rest (some variant)
    else do
      let (found, others) ← splitTag key variants rest found
      return (found, (name, value) :: others)

/-- Decodes a value that names its variant under `key`, or as its first item. -/
def decodeTagged {α : Type} (name key : String) (variants : List (Variant α)) :
    Json → Except Mismatch α
  | .object fields => do
    match ← splitTag key variants fields none with
    | (some variant, others) => variant.decode (.object others)
    | (none, _) => .error (.missingField key)
  | .array (tag :: items) => do
    let variant ← selectByIndex variants tag
    variant.decode (.array items)
  | .array [] => .error (.missingField key)
  | value => .error (.wrongType value name)

/-- The variant selected by a value read from a text. -/
def readTag {α : Type} (variants : List (Variant α)) : Reader (Variant α) :=
  (scalar (select variants)).read 0

/-- A value that names its variant under `key`, or as its first item.  Everything else in it is taken
in first and then decoded by that variant. -/
def tagged {α : Type} (name key : String) (variants : List (Variant α)) : Decoder α where
  read depth := do
    let (variant, others) ← Reader.located do
      match ← Reader.peekToken with
      | some '[' => Reader.nested depth fun depth => Reader.enclosed Reader.closeList do
        if ← Reader.moreItems true then
          let variant ← readTag variants
          let items ← Reader.listRest (Reader.value depth) ((← Reader.remaining) + 1) false []
          pure (variant, Json.array items)
        else Reader.mismatch (.missingField key)
      | some '{' => Reader.nested depth fun depth => Reader.enclosed Reader.closeObject do
        let field (key' : String) (state : Option (Variant α) × List (String × Json)) :
            Reader (Option (Variant α) × List (String × Json)) := do
          if key' == key then
            if state.1.isSome then Reader.mismatch (.duplicateField key)
            Reader.colon
            return (some (← readTag variants), state.2)
          else
            Reader.colon
            return (state.1, (key', ← Reader.value depth) :: state.2)
        match ← Reader.objectRest field ((← Reader.remaining) + 1) true (none, []) with
        | (some variant, others) => pure (variant, Json.object others.reverse)
        | (none, _) => Reader.mismatch (.missingField key)
      | _ => unexpected name
    .ofExcept (variant.decode others)
  decode := decodeTagged name key variants

end Decoder

/-- Decodes a whole text. -/
def Decoder.run {α : Type} (decoder : Decoder α) (text : String) : Except Fault α :=
  readAll (decoder.read maxDepth) text

end EditorBridge.Json
