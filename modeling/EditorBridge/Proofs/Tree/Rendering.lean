import EditorBridge.Proofs.Tree.Building
import EditorBridge.Tree.Render
/-!
What rendering writes.  Fields are set one after the other; since their names differ from each other
and from the names of the header, an object is written as its header followed by its properties.
-/

set_option autoImplicit false

namespace EditorBridge

/-! ## Fields one after the other -/

theorem Json.foldl_put_eq_append {fields written : List (String × Json)}
    (unique : ((written ++ fields).map Prod.fst).Nodup) :
    fields.foldl (fun written (name, value) => put written name value) written =
      written ++ fields := by
  induction fields generalizing written with
  | nil => exact (List.append_nil written).symm
  | cons field rest ih =>
    have hfresh : field.1 ∉ written.map Prod.fst := by
      rw [List.map_append, List.nodup_append'] at unique
      exact fun hmem => unique.2.2 hmem List.mem_cons_self
    rw [List.append_cons] at unique
    rw [List.append_cons, ← ih unique, ← put_of_fresh field.2 hfresh]
    rfl

namespace Value

/-- Properties with their values rendered. -/
def rendered (entry : Entry → Json) (properties : Properties) : List (String × Json) :=
  properties.map fun property => (property.1, property.2.toJson entry)

theorem rendered_keys (entry : Entry → Json) (properties : Properties) :
    (rendered entry properties).map Prod.fst = properties.map Prod.fst := by
  rw [rendered, List.map_map]
  rfl

theorem rendered_kept {entry : Entry → Json} {properties : Properties} {skipped : Option String}
    (h : ∀ property ∈ properties, Conventions.drops skipped property.1 = false) :
    ∀ field ∈ rendered entry properties, Conventions.drops skipped field.1 = false := by
  intro field hmem
  obtain ⟨property, hproperty, rfl⟩ := List.mem_map.mp hmem
  exact h property hproperty

theorem fieldsToJson_eq_foldl (entry : Entry → Json) (written : List (String × Json))
    (properties : Properties) :
    fieldsToJson entry written properties = (rendered entry properties).foldl
      (fun written (name, value) => Json.put written name value) written := by
  induction properties generalizing written with
  | nil => rfl
  | cons property rest ih => exact ih _

theorem fieldsToJson_eq_append {entry : Entry → Json} {written : List (String × Json)}
    {properties : Properties}
    (unique : ((written ++ rendered entry properties).map Prod.fst).Nodup) :
    fieldsToJson entry written properties = written ++ rendered entry properties := by
  rw [fieldsToJson_eq_foldl, Json.foldl_put_eq_append unique]

end Value

/-! ## Headers -/

/-- Fields that say nothing but where a node is held. -/
structure DescribesContainer (fields : List (String × Json)) : Prop where
  keys : ∀ field ∈ fields, isContainerField field.1 = true
  nodup : (fields.map Prod.fst).Nodup
  unique : ∀ field ∈ fields, field.2.hasUniqueKeys = true

theorem DescribesContainer.nil : DescribesContainer [] :=
  ⟨fun _ h => absurd h List.not_mem_nil, List.nodup_nil, fun _ h => absurd h List.not_mem_nil⟩

theorem DescribesContainer.ne_of_mem {fields : List (String × Json)} (h : DescribesContainer fields)
    {name : String} (hname : isContainerField name = false) : ∀ field ∈ fields, field.1 ≠ name := by
  rintro field hmem rfl
  exact absurd ((h.keys field hmem).symm.trans hname) (by decide)

theorem Container.fields_describe (container : Container) : DescribesContainer container.fields := by
  obtain ⟨node, property, index⟩ := container
  cases index with
  | none => exact ⟨by simp [fields, isContainerField], by simp [fields],
      by simp [fields, Json.hasUniqueKeys]⟩
  | some index => exact ⟨by simp [fields, isContainerField],
      by simp [fields, containerPropertyField, containerIndexField],
      by simp [fields, Json.ofNat, Json.hasUniqueKeys]⟩

/-- The field that is written to mark an entry. -/
def markFields (mark : String) (text : Option String) : List (String × Json) :=
  (text.map fun text => (mark, Json.string text)).toList

theorem eq_mark_of_mem {mark : String} {text : Option String} {field : String × Json}
    (h : field ∈ markFields mark text) : ∃ written, field = (mark, .string written) := by
  cases text with
  | none => exact absurd h List.not_mem_nil
  | some text => exact ⟨text, List.mem_singleton.mp h⟩

/-- What is written for an entry: its mark, something about its container, its properties. -/
structure Written (mark : String) (text : Option String) (properties fields : List (String × Json)) :
    Prop where
  mark_kept : isContainerField mark = false
  properties_kept : ∀ field ∈ properties, Conventions.drops (some mark) field.1 = false
  properties_nodup : (properties.map Prod.fst).Nodup
  eq_append : ∃ about, DescribesContainer about ∧ fields = markFields mark text ++ about ++ properties

namespace Written

variable {mark : String} {text : Option String} {properties fields : List (String × Json)}

theorem key_ne_mark (h : Written mark text properties fields) :
    ∀ field ∈ properties, field.1 ≠ mark := by
  rintro field hmem rfl
  simpa [Conventions.drops] using h.properties_kept field hmem

theorem key_not_container (h : Written mark text properties fields) :
    ∀ field ∈ properties, isContainerField field.1 = false := by
  intro field hmem
  have hkept := h.properties_kept field hmem
  rw [Conventions.drops, Bool.or_eq_false_iff] at hkept
  exact hkept.1

theorem nodup_keys (h : Written mark text properties fields) : (fields.map Prod.fst).Nodup := by
  obtain ⟨about, habout, rfl⟩ := h.eq_append
  have hmarkNodup : ((markFields mark text).map Prod.fst).Nodup := by
    cases text with
    | none => exact List.nodup_nil
    | some text => exact List.nodup_singleton mark
  simp only [List.map_append]
  refine List.nodup_append'.mpr ⟨List.nodup_append'.mpr ⟨hmarkNodup, habout.nodup, ?_⟩,
    h.properties_nodup, ?_⟩
  · intro key hmark hheld
    obtain ⟨field, hfield, rfl⟩ := List.mem_map.mp hmark
    obtain ⟨other, hother, hsame⟩ := List.mem_map.mp hheld
    obtain ⟨written, rfl⟩ := eq_mark_of_mem hfield
    exact habout.ne_of_mem h.mark_kept other hother hsame
  · intro key hheader hheld
    obtain ⟨field, hfield, rfl⟩ := List.mem_map.mp hheld
    rcases List.mem_append.mp hheader with hheader | hheader
    · obtain ⟨other, hother, hsame⟩ := List.mem_map.mp hheader
      obtain ⟨written, rfl⟩ := eq_mark_of_mem hother
      exact h.key_ne_mark field hfield hsame.symm
    · obtain ⟨other, hother, hsame⟩ := List.mem_map.mp hheader
      exact habout.ne_of_mem (h.key_not_container field hfield) other hother hsame

/-- The mark is found under its name. -/
theorem lookup_mark (h : Written mark text properties fields) :
    Json.lookup fields mark = text.map .string := by
  obtain ⟨about, habout, rfl⟩ := h.eq_append
  cases text with
  | some text => rw [markFields, Option.map_some, Option.toList_some, List.append_assoc,
      List.singleton_append, Json.lookup_cons, if_pos rfl, Option.map_some]
  | none =>
    refine Json.lookup_eq_none fun field hmem hsame => ?_
    rcases List.mem_append.mp hmem with hmem | hmem
    · exact habout.ne_of_mem h.mark_kept field hmem hsame
    · exact h.key_ne_mark field hmem hsame

/-- Any other name that does not describe a container finds just the property of that name. -/
theorem lookup_of_ne (h : Written mark text properties fields) {key : String} (hkey : key ≠ mark)
    (hkept : isContainerField key = false) : Json.lookup fields key = Json.lookup properties key := by
  obtain ⟨about, habout, rfl⟩ := h.eq_append
  rw [Json.lookup_append, Json.lookup_eq_none fun field hmem hsame => ?_, Option.none_or]
  rcases List.mem_append.mp hmem with hmem | hmem
  · obtain ⟨written, rfl⟩ := eq_mark_of_mem hmem
    exact hkey hsame.symm
  · exact habout.ne_of_mem hkept field hmem hsame

theorem hasUniqueKeys (h : Written mark text properties fields)
    (hvalues : ∀ field ∈ properties, field.2.hasUniqueKeys = true) :
    (Json.object fields).hasUniqueKeys = true := by
  refine (Json.hasUniqueKeys_object _).mpr ⟨h.nodup_keys, fun field hmem => ?_⟩
  obtain ⟨about, habout, rfl⟩ := h.eq_append
  rcases List.mem_append.mp hmem with hmem | hmem
  · rcases List.mem_append.mp hmem with hmem | hmem
    · obtain ⟨written, rfl⟩ := eq_mark_of_mem hmem
      rfl
    · exact habout.unique field hmem
  · exact hvalues field hmem

end Written

namespace LinkedTree

variable {tree : LinkedTree} {properties : Properties}

/-- An entry is written as its header followed by its properties if no name is repeated. -/
theorem entryToJson_succ {entry : Entry} {header : List (String × Json)} {depth : Nat}
    (hheader : tree.header entry = header) (hproperties : tree.entryProperties entry = properties)
    (unique : ((header ++ Value.rendered (tree.entryToJson depth) properties).map Prod.fst).Nodup) :
    tree.entryToJson (depth + 1) entry =
      .object (header ++ Value.rendered (tree.entryToJson depth) properties) := by
  have hnodup : ((([] : List (String × Json)) ++ header).map Prod.fst).Nodup :=
    unique.sublist ((List.sublist_append_left _ _).map _)
  have hwritten := Json.foldl_put_eq_append hnodup
  rw [List.nil_append] at hwritten
  have hsame := congrArg (Value.fieldsToJson (tree.entryToJson depth) · properties) hwritten
  rw [entryToJson, hheader, hproperties]
  exact congrArg Json.object (hsame.trans (Value.fieldsToJson_eq_append unique))

/-- The header of a node has its kind first, and then what there is to say about its container. -/
theorem entryToJson_node {id : NodeId} {kind : Option String}
    (hnode : tree.unlinked.node? id = some ⟨kind, properties, none⟩)
    (hmark : isContainerField tree.conventions.typeField = false)
    (hkept : ∀ property ∈ properties,
      Conventions.drops (some tree.conventions.typeField) property.1 = false)
    (hnodup : (properties.map Prod.fst).Nodup) (depth : Nat) :
    ∃ fields, tree.entryToJson (depth + 1) (.node id) = .object fields ∧
      Written tree.conventions.typeField kind (Value.rendered (tree.entryToJson depth) properties)
        fields := by
  rw [node?_unlinked, Option.map_eq_some_iff] at hnode
  obtain ⟨⟨kind, properties, container⟩, hnode, heq⟩ := hnode
  cases heq
  have habout : DescribesContainer ((container.map Container.fields).getD []) := by
    cases container with
    | none => exact .nil
    | some container => exact container.fields_describe
  have hwritten : Written tree.conventions.typeField kind
      (Value.rendered (tree.entryToJson depth) properties) _ :=
    ⟨hmark, Value.rendered_kept hkept, by rwa [Value.rendered_keys], _, habout, rfl⟩
  exact ⟨_, entryToJson_succ (by rw [header, hnode]; rfl) (by rw [entryProperties, hnode]; rfl)
    hwritten.nodup_keys, hwritten⟩

theorem entryToJson_reference {id : ReferenceId} {path : String}
    (hreference : tree.unlinked.reference? id = some ⟨path, properties, none⟩)
    (hmark : isContainerField tree.conventions.refField = false)
    (hkept : ∀ property ∈ properties,
      Conventions.drops (some tree.conventions.refField) property.1 = false)
    (hnodup : (properties.map Prod.fst).Nodup) (depth : Nat) :
    ∃ fields, tree.entryToJson (depth + 1) (.reference id) = .object fields ∧
      Written tree.conventions.refField (some path)
        (Value.rendered (tree.entryToJson depth) properties) fields := by
  rw [reference?_unlinked, Option.map_eq_some_iff] at hreference
  obtain ⟨⟨path, properties, target⟩, hreference, heq⟩ := hreference
  cases heq
  have hwritten : Written tree.conventions.refField (some path)
      (Value.rendered (tree.entryToJson depth) properties) _ :=
    ⟨hmark, Value.rendered_kept hkept, by rwa [Value.rendered_keys], _, .nil, rfl⟩
  exact ⟨_, entryToJson_succ (by rw [header, hreference]; rfl)
    (by rw [entryProperties, hreference]; rfl) hwritten.nodup_keys, hwritten⟩

end LinkedTree

end EditorBridge
