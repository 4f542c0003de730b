import EditorBridge.Proofs.Tree.Containers
import EditorBridge.Proofs.Tree.Spelling
/-!
Locations.  `LinkedTree.LeadsAlong` follows steps from value to value by what the properties of nodes and
records hold.  Where no object repeats a key, a step leads to one value only, and it is the one that
resolving finds, so the path of a location is resolved to the node there
(`LinkedTree.resolve?_spell_of_location`).  The containers of a node on the walk are such a location.
-/

set_option autoImplicit false

namespace EditorBridge

/-! ## Unique names -/

namespace Value

mutual
/-- Whether no record in a value repeats a name, at any depth. -/
def hasUniqueNames : Value → Bool
  | array items => itemsHaveUniqueNames items
  | record fields => decide (fields.map Prod.fst).Nodup && fieldsHaveUniqueNames fields
  | _ => true
termination_by structural value => value

def itemsHaveUniqueNames : List Value → Bool
  | [] => true
  | item :: rest => hasUniqueNames item && itemsHaveUniqueNames rest
termination_by structural items => items

def fieldsHaveUniqueNames : List (String × Value) → Bool
  | [] => true
  | (_, value) :: rest => hasUniqueNames value && fieldsHaveUniqueNames rest
termination_by structural fields => fields
end

theorem hasUniqueNames_array (items : List Value) :
    (array items).hasUniqueNames = true ↔ ∀ item ∈ items, item.hasUniqueNames = true := by
  rw [hasUniqueNames]
  induction items with
  | nil => simp [itemsHaveUniqueNames]
  | cons item rest ih => simp [itemsHaveUniqueNames, ih]

theorem hasUniqueNames_record (fields : List (String × Value)) :
    (record fields).hasUniqueNames = true ↔
      (fields.map Prod.fst).Nodup ∧ ∀ field ∈ fields, field.2.hasUniqueNames = true := by
  have hvalues : fieldsHaveUniqueNames fields = true ↔
      ∀ field ∈ fields, field.2.hasUniqueNames = true := by
    induction fields with
    | nil => simp [fieldsHaveUniqueNames]
    | cons field rest ih => simp [fieldsHaveUniqueNames, ih]
  rw [hasUniqueNames, Bool.and_eq_true, decide_eq_true_iff, hvalues]

end Value

namespace Conventions

mutual
/-- What is harvested of JSON with unique keys has unique names. -/
theorem harvest_hasUniqueNames (conventions : Conventions) :
    ∀ (nodes references : Nat) (json : Json), json.hasUniqueKeys = true →
      (conventions.harvest nodes references json).value.hasUniqueNames = true
  | _, _, .null, _ | _, _, .bool _, _ | _, _, .number _, _ | _, _, .string _, _ => rfl
  | nodes, references, .array items, unique => by
    have hitems := (Json.hasUniqueKeys_array items).mp unique
    rw [harvest]
    exact (Value.hasUniqueNames_array _).mpr
      (harvestItems_haveUniqueNames conventions nodes references items hitems)
  | nodes, references, .object fields, unique => by
    obtain ⟨hkeys, hvalues⟩ := (Json.hasUniqueKeys_object fields).mp unique
    rw [harvest]
    split
    · rfl
    · rfl
    · have hnames := hkeys.sublist
        (conventions.harvestFields_keys_sublist none nodes references fields)
      exact (Value.hasUniqueNames_record _).mpr
        ⟨hnames, harvestFields_haveUniqueNames conventions none nodes references fields hvalues⟩
termination_by structural _ _ json => json

theorem harvestItems_haveUniqueNames (conventions : Conventions) :
    ∀ (nodes references : Nat) (items : List Json), (∀ item ∈ items, item.hasUniqueKeys = true) →
      ∀ value ∈ (conventions.harvestItems nodes references items).value,
        value.hasUniqueNames = true
  | _, _, [], _ => fun _ h => absurd h List.not_mem_nil
  | nodes, references, item :: rest, unique => by
    obtain ⟨hitem, hrest⟩ := List.forall_mem_cons.mp unique
    rw [harvestItems]
    exact List.forall_mem_cons.mpr ⟨harvest_hasUniqueNames conventions _ _ item hitem,
      harvestItems_haveUniqueNames conventions _ _ rest hrest⟩
termination_by structural _ _ items => items

theorem harvestFields_haveUniqueNames (conventions : Conventions) :
    ∀ (skipped : Option String) (nodes references : Nat) (fields : List (String × Json)),
      (∀ field ∈ fields, field.2.hasUniqueKeys = true) →
      ∀ property ∈ (conventions.harvestFields skipped nodes references fields).value,
        property.2.hasUniqueNames = true
  | _, _, _, [], _ => fun _ h => absurd h List.not_mem_nil
  | skipped, nodes, references, (name, value) :: rest, unique => by
    obtain ⟨hvalue, hrest⟩ := List.forall_mem_cons.mp unique
    rw [harvestFields]
    split
    · exact harvestFields_haveUniqueNames conventions skipped _ _ rest hrest
    · exact List.forall_mem_cons.mpr ⟨harvest_hasUniqueNames conventions _ _ value hvalue,
        harvestFields_haveUniqueNames conventions skipped _ _ rest hrest⟩
termination_by structural _ _ _ fields => fields
end

end Conventions

namespace LinkedTree

/-- No node repeats a property, and no record in its properties repeats a name. -/
def UniqueNames (tree : LinkedTree) : Prop :=
  ∀ id properties, tree.propertiesOf? (.node id) = some properties →
    (Value.record properties).hasUniqueNames = true

theorem uniqueNames_build (conventions : Conventions) {fields : List (String × Json)}
    (unique : (Json.object fields).hasUniqueKeys = true) : (conventions.build fields).UniqueNames := by
  have hinherits : conventions.Inherits (fun json => json.hasUniqueKeys = true)
      (fun node => (Value.record node.properties).hasUniqueNames = true) (fun _ => True) := by
    refine ⟨fun items hk => (Json.hasUniqueKeys_array items).mp hk,
      fun inner hk => ((Json.hasUniqueKeys_object inner).mp hk).2, ?_, fun _ _ _ _ _ _ => trivial⟩
    intro inner hk kind skipped nodes references
    obtain ⟨hkeys, hvalues⟩ := (Json.hasUniqueKeys_object inner).mp hk
    have hnames := hkeys.sublist
      (conventions.harvestFields_keys_sublist skipped nodes references inner)
    exact (Value.hasUniqueNames_record _).mpr
      ⟨hnames, conventions.harvestFields_haveUniqueNames skipped nodes references inner hvalues⟩
  intro id properties h
  obtain ⟨node, hnode, rfl⟩ := Option.map_eq_some_iff.mp h
  have hmem : node ∈ (conventions.build fields).nodes.toList :=
    Array.mem_toList_iff.mpr (Array.mem_of_getElem? hnode)
  exact (hinherits.harvestRoot unique).nodes node hmem

theorem UniqueNames.of_unlinked_eq {a b : LinkedTree} (h : a.UniqueNames)
    (heq : a.unlinked = b.unlinked) : b.UniqueNames := by
  intro id properties hproperties
  have hsame : a.propertiesOf? (.node id) = b.propertiesOf? (.node id) := by
    rw [← propertiesOf?_unlinked a, heq, propertiesOf?_unlinked]
  exact h id properties (hsame.trans hproperties)

/-! ## Steps -/

/-- A step leads from a node or a record to what the property holds, or to an item of the array that the
property holds. -/
inductive Leads (tree : LinkedTree) : Value → Conventions.Segment → Value → Prop
  | property {value held : Value} {properties : Properties} {name : String} :
    tree.propertiesOf? value = some properties → (name, held) ∈ properties →
    Leads tree value ⟨name, none⟩ held
  | item {value held : Value} {properties : Properties} {name : String} {items : List Value}
    {index : Nat} : tree.propertiesOf? value = some properties → (name, .array items) ∈ properties →
    items[index]? = some held → Leads tree value ⟨name, some index⟩ held

/-- Steps lead from one value to another. -/
inductive LeadsAlong (tree : LinkedTree) : Value → List Conventions.Segment → Value → Prop
  | nil (value : Value) : LeadsAlong tree value [] value
  | cons {value next held : Value} {step : Conventions.Segment}
    {steps : List Conventions.Segment} : tree.Leads value step next →
    LeadsAlong tree next steps held → LeadsAlong tree value (step :: steps) held

theorem LeadsAlong.concat {tree : LinkedTree} {value next held : Value}
    {steps : List Conventions.Segment} {step : Conventions.Segment}
    (h : tree.LeadsAlong value steps next) (hstep : tree.Leads next step held) :
    tree.LeadsAlong value (steps ++ [step]) held := by
  induction h with
  | nil value => exact .cons hstep (.nil held)
  | cons hfirst _ ih => exact .cons hfirst (ih hstep)

section Following

variable {tree : LinkedTree} {value held : Value}

theorem UniqueNames.propertiesOf (names : tree.UniqueNames) (hvalue : value.hasUniqueNames = true)
    {properties : Properties} (h : tree.propertiesOf? value = some properties) :
    (properties.map Prod.fst).Nodup ∧ ∀ property ∈ properties, property.2.hasUniqueNames = true := by
  rw [← Value.hasUniqueNames_record]
  cases value with
  | node id => exact names id properties h
  | record fields =>
    rw [← Option.some.inj h]
    exact hvalue
  | _ => simp [propertiesOf?] at h

/-- Where names are unique, a step finds what it leads to, which has unique names again. -/
theorem Leads.step?_eq (names : tree.UniqueNames) (hvalue : value.hasUniqueNames = true)
    {step : Conventions.Segment} (h : tree.Leads value step held) :
    tree.step? value step = some held ∧ held.hasUniqueNames = true := by
  cases h with
  | @property held properties name hproperties hmem =>
    obtain ⟨hnodup, hvalues⟩ := names.propertiesOf hvalue hproperties
    have hlookup := (Json.lookup_eq_some_iff hnodup).mpr hmem
    exact ⟨by simp [step?, hproperties, hlookup], hvalues _ hmem⟩
  | @item held properties name items index hproperties hmem hitem =>
    obtain ⟨hnodup, hvalues⟩ := names.propertiesOf hvalue hproperties
    have hlookup := (Json.lookup_eq_some_iff hnodup).mpr hmem
    have hitems := (Value.hasUniqueNames_array items).mp (hvalues _ hmem)
    exact ⟨by simp [step?, hproperties, hlookup, Value.asArray?, hitem],
      hitems held (List.mem_of_getElem? hitem)⟩

theorem LeadsAlong.follow?_eq (names : tree.UniqueNames) {steps : List Conventions.Segment}
    (h : tree.LeadsAlong value steps held) (hvalue : value.hasUniqueNames = true) :
    tree.follow? value steps = some held := by
  induction h with
  | nil value => rfl
  | @cons value next held step steps hstep _ ih =>
    obtain ⟨hfound, hnext⟩ := hstep.step?_eq names hvalue
    rw [follow?, List.foldlM_cons, hfound]
    exact ih hnext

/-- The path of a location is resolved to the node there. -/
theorem LeadsAlong.resolve?_eq (names : tree.UniqueNames) (distinct : tree.conventions.Distinct)
    {steps : List Conventions.Segment} {id : NodeId}
    (h : tree.LeadsAlong (.node tree.root) steps (.node id))
    (spellable : ∀ step ∈ steps, tree.conventions.Spellable step) :
    tree.resolve? (tree.conventions.spell steps) = some id := by
  have hread := Conventions.segments_spell distinct spellable
  have hfollow := h.follow?_eq names rfl
  simp [resolve?, hread, hfollow, Value.asNode?]

end Following

/-! ## Chains of containers -/

/-- The steps to a node by the containers it is in, the outermost one first. -/
inductive HeldAlong (tree : LinkedTree) : NodeId → List Conventions.Segment → Prop
  | root : HeldAlong tree tree.root []
  | inside {id : NodeId} {container : Container} {steps : List Conventions.Segment} :
    tree.container? id = some container → HeldAlong tree container.node steps →
    HeldAlong tree id (steps ++ [⟨container.property, container.index⟩])

theorem leads_of_nodeAt? {tree : LinkedTree} {owner id : NodeId} {node : Node} {property : String}
    {value : Value} {index : Option Nat} (hnode : tree.node? owner = some node)
    (hmem : (property, value) ∈ node.properties) (hat : value.nodeAt? index = some id) :
    tree.Leads (.node owner) ⟨property, index⟩ (.node id) := by
  have hproperties : tree.propertiesOf? (.node owner) = some node.properties := by
    rw [propertiesOf?, hnode, Option.map_some]
  cases index with
  | none =>
    cases value <;> simp [Value.nodeAt?, Value.asNode?] at hat
    rw [hat] at hmem
    exact .property hproperties hmem
  | some index =>
    cases value with
    | array items =>
      simp only [Value.nodeAt?, Value.asArray?, Option.bind_eq_bind, Option.bind_some,
        Option.bind_eq_some_iff] at hat
      obtain ⟨item, hitem, hid⟩ := hat
      cases item <;> simp [Value.asNode?] at hid
      rw [hid] at hitem
      exact .item hproperties hmem hitem
    | _ => simp [Value.nodeAt?, Value.asArray?] at hat

theorem leads_of_slot {tree : LinkedTree} {owner id : NodeId} {node : Node} {property : String}
    {index : Option Nat} (hnode : tree.node? owner = some node)
    (hslot : ⟨property, index, .node id⟩ ∈ node.slots) :
    tree.Leads (.node owner) ⟨property, index⟩ (.node id) := by
  obtain ⟨⟨name, value⟩, hmem, hslot⟩ := List.mem_flatMap.mp hslot
  obtain ⟨rfl, hat⟩ := Value.mem_slots_iff.mp hslot
  exact leads_of_nodeAt? hnode hmem hat

theorem leads_eq_of_unlinked_eq {a b : LinkedTree} (heq : a.unlinked = b.unlinked)
    {value held : Value} {step : Conventions.Segment} (h : a.Leads value step held) :
    b.Leads value step held := by
  have hsame : ∀ value, a.propertiesOf? value = b.propertiesOf? value := by
    intro value
    rw [← propertiesOf?_unlinked a, heq, propertiesOf?_unlinked]
  cases h with
  | property hproperties hmem => exact .property (hsame _ ▸ hproperties) hmem
  | item hproperties hmem hitem => exact .item (hsame _ ▸ hproperties) hmem hitem

section Chains

variable {tree : LinkedTree}

/-- The containers of a node are a location of it. -/
theorem HeldAlong.leadsAlong (h : tree.LaidOut) (hfresh : tree.unlinked = tree) {id : NodeId}
    {steps : List Conventions.Segment} (hheld : tree.link.HeldAlong id steps) :
    tree.link.LeadsAlong (.node tree.link.root) steps (.node id) := by
  induction hheld with
  | root => exact .nil _
  | @inside id container steps hcontainer _ ih =>
    have hvisit := (container?_link_iff h hfresh).mp hcontainer
    obtain ⟨_, node, hnode, hslot⟩ := (mem_visits_contained_iff h).mp hvisit
    have hleads := leads_of_slot hnode hslot
    exact ih.concat (leads_eq_of_unlinked_eq tree.unlinked_link.symm hleads)

/-- Every node on the walk is in containers up to the root. -/
theorem LaidOut.exists_heldAlong (h : tree.LaidOut) (hfresh : tree.unlinked = tree) {entry : Entry}
    (hreached : tree.Reached entry) {id : NodeId} (hid : entry = .node id) :
    ∃ steps, tree.link.HeldAlong id steps := by
  induction hreached generalizing id with
  | root =>
    have hroot : id = tree.link.root := by
      rw [root_eq_of_unlinked_eq tree.unlinked_link]
      exact (Entry.node.inj hid).symm
    rw [hroot]
    exact ⟨[], .root⟩
  | @slot owner node slot howner hnode hslot ih =>
    obtain ⟨steps, hsteps⟩ := ih rfl
    have hvisit : ⟨slot.entry, some ⟨owner, slot.property, slot.index⟩⟩ ∈ tree.visits :=
      (mem_visits_contained_iff h).mpr ⟨h.mem_flatten_iff.mpr howner, node, hnode, hslot⟩
    rw [hid] at hvisit
    exact ⟨_, .inside ((container?_link_iff h hfresh).mpr hvisit) hsteps⟩

end Chains

/-! ## Resolving -/

/-- **The path of every location whose steps can be written is resolved to the node there.**  So is the
path that the containers of a node on the walk make up. -/
theorem resolve?_spell_of_location (conventions : Conventions) (distinct : conventions.Distinct)
    (fields : List (String × Json)) (unique : (Json.object fields).hasUniqueKeys = true) :
    ∃ tree, ofJson conventions (.object fields) = .ok tree ∧
      (∀ steps id, tree.LeadsAlong (.node tree.root) steps (.node id) →
        (∀ step ∈ steps, conventions.Spellable step) →
        tree.resolve? (conventions.spell steps) = some id) ∧
      (∀ id, .node id ∈ tree.flatten → ∃ steps, tree.HeldAlong id steps) ∧
      (∀ id steps, tree.HeldAlong id steps → (∀ step ∈ steps, conventions.Spellable step) →
        tree.resolve? (conventions.spell steps) = some id) := by
  have hbuilt := conventions.build_laidOut fields
  have hfresh := conventions.unlinked_build fields
  have hunlinked := (conventions.build fields).unlinked_link
  have hconventions : (conventions.build fields).link.conventions = conventions :=
    conventions_eq_of_unlinked_eq hunlinked
  have hnames := (uniqueNames_build conventions unique).of_unlinked_eq hunlinked.symm
  have hresolve := @LeadsAlong.resolve?_eq _ hnames
  rw [hconventions] at hresolve
  refine ⟨_, ofJson_object conventions fields, fun steps id => hresolve distinct, ?_, ?_⟩
  · intro id hmem
    rw [flatten_link] at hmem
    exact hbuilt.exists_heldAlong hfresh (hbuilt.mem_flatten_iff.mp hmem) rfl
  · intro id steps hheld
    exact hresolve distinct (hheld.leadsAlong hbuilt hfresh)

/-- A document with a node under an empty name, inside of a node under a name with a marker in it. -/
def markedDocument : List (String × Json) :=
  [("$type", .string "Model"),
    ("m", .object [("a@b", .array [.null, .object [("$type", .string "Outer"),
      ("", .array [.object [("$type", .string "Inner")]])]])])]

/-- The steps to the innermost node of that document. -/
def markedSteps : List Conventions.Segment := [⟨"m", none⟩, ⟨"a@b", some 1⟩, ⟨"", some 0⟩]

theorem spellable_markedSteps : ∀ step ∈ markedSteps, Conventions.Spellable {} step := by
  simp only [markedSteps, List.forall_mem_cons]
  exact ⟨⟨by decide, by simp, by decide⟩, ⟨by decide, by simp, by simp⟩,
    ⟨by decide, by simp, by simp⟩, by simp⟩

theorem resolve?_spell_of_location_marked :
    Conventions.Distinct {} ∧ (Json.object markedDocument).hasUniqueKeys = true ∧
      ∃ tree, ofJson {} (.object markedDocument) = .ok tree ∧
        tree.LeadsAlong (.node tree.root) markedSteps (.node ⟨2⟩) ∧
        tree.resolve? "#m/a@b@1/@0" = some ⟨2⟩ := by
  obtain ⟨tree, hlinked, hresolve, -⟩ := resolve?_spell_of_location {} Conventions.distinct_default
    markedDocument (by decide)
  have htree : (Conventions.build {} markedDocument).link = tree := Except.ok.inj hlinked
  have hleads : tree.LeadsAlong (.node tree.root) markedSteps (.node ⟨2⟩) := by
    rw [← htree]
    exact .cons (.property rfl List.mem_cons_self) (.cons (.item rfl List.mem_cons_self rfl)
      (.cons (.item rfl List.mem_cons_self rfl) (.nil _)))
  exact ⟨Conventions.distinct_default, by decide, tree, hlinked, hleads,
    hresolve markedSteps ⟨2⟩ hleads spellable_markedSteps⟩

end LinkedTree

end EditorBridge
