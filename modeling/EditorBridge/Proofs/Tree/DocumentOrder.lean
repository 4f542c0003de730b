import EditorBridge.Proofs.Tree.Containers
import EditorBridge.Proofs.Tree.PreOrder
import EditorBridge.Proofs.Tree.Rendition
import Mathlib.Data.List.Flatten
import Mathlib.Data.Option.Basic
/-!
Handles in the order of the document.  A document is a sequence of objects that open and close
(`Json.brackets`).  The nodes among them stand in the arena in the order in which they open, the references
in the order in which they close, and a walk goes through both kinds of handles upwards
(`LinkedTree.Laid.pairwise_preOrder`).  Only what is under the type field of the root is never built, unless
it is a text (`LinkedTree.documentOrder_iff`).
-/

set_option autoImplicit false

namespace EditorBridge

/-! ## Objects as they open and close -/

/-- An object of a document, where it opens or where it closes. -/
inductive Bracket
  | opening (fields : List (String × Json))
  | closing (fields : List (String × Json))

namespace Json

mutual
/-- The objects of a value as they open and close.  What is under a container field is passed over. -/
def brackets : Json → List Bracket
  | array items => itemBrackets items
  | object fields => .opening fields :: (fieldBrackets fields ++ [.closing fields])
  | _ => []
termination_by structural value => value

/-- The objects of items as they open and close. -/
def itemBrackets : List Json → List Bracket
  | [] => []
  | item :: rest => brackets item ++ itemBrackets rest
termination_by structural items => items

/-- The objects under fields as they open and close. -/
def fieldBrackets : List (String × Json) → List Bracket
  | [] => []
  | (name, value) :: rest =>
    (if isContainerField name then [] else brackets value) ++ fieldBrackets rest
termination_by structural fields => fields
end

end Json

namespace Conventions

variable {conventions : Conventions}

def ObjectClass.kind? : ObjectClass → Option String
  | node kind => some kind
  | _ => none

def ObjectClass.path? : ObjectClass → Option String
  | reference path => some path
  | _ => none

/-- The kind of a node that opens. -/
def openedKind? (conventions : Conventions) : Bracket → Option String
  | .opening fields => (conventions.classify fields).kind?
  | .closing _ => none

/-- The path of a reference that closes. -/
def closedPath? (conventions : Conventions) : Bracket → Option String
  | .opening _ => none
  | .closing fields => (conventions.classify fields).path?

/-- The kinds of the nodes among some objects, in the order in which these open. -/
def openedKinds (conventions : Conventions) (brackets : List Bracket) : List String :=
  brackets.filterMap conventions.openedKind?

/-- The paths of the references among some objects, in the order in which these close. -/
def closedPaths (conventions : Conventions) (brackets : List Bracket) : List String :=
  brackets.filterMap conventions.closedPath?

/-- No object is a node or a reference. -/
def Unmarked (conventions : Conventions) (brackets : List Bracket) : Prop :=
  conventions.openedKinds brackets = [] ∧ conventions.closedPaths brackets = []

theorem openedKinds_append (first second : List Bracket) :
    conventions.openedKinds (first ++ second) =
      conventions.openedKinds first ++ conventions.openedKinds second := List.filterMap_append

theorem closedPaths_append (first second : List Bracket) :
    conventions.closedPaths (first ++ second) =
      conventions.closedPaths first ++ conventions.closedPaths second := List.filterMap_append

/-- The kind of an object comes before those of the objects in it. -/
theorem openedKinds_object (fields : List (String × Json)) (brackets : List Bracket) :
    conventions.openedKinds (.opening fields :: (brackets ++ [.closing fields])) =
      (conventions.classify fields).kind?.toList ++ conventions.openedKinds brackets := by
  have hopening : conventions.openedKinds [.opening fields] =
      (conventions.classify fields).kind?.toList := by
    cases hkind : (conventions.classify fields).kind? <;>
      simp [openedKinds, openedKind?, hkind]
  have hclosing : conventions.openedKinds [.closing fields] = [] := rfl
  rw [← List.singleton_append, openedKinds_append, openedKinds_append, hopening, hclosing,
    List.append_nil]

/-- The path of an object comes after those of the objects in it. -/
theorem closedPaths_object (fields : List (String × Json)) (brackets : List Bracket) :
    conventions.closedPaths (.opening fields :: (brackets ++ [.closing fields])) =
      conventions.closedPaths brackets ++ (conventions.classify fields).path?.toList := by
  have hopening : conventions.closedPaths [.opening fields] = [] := rfl
  have hclosing : conventions.closedPaths [.closing fields] =
      (conventions.classify fields).path?.toList := by
    cases hpath : (conventions.classify fields).path? <;>
      simp [closedPaths, closedPath?, hpath]
  rw [← List.singleton_append, closedPaths_append, closedPaths_append, hopening, hclosing,
    List.nil_append]

end Conventions

/-! ## What is harvested -/

namespace Harvest

variable {α β γ : Type} {conventions : Conventions} {harvest : Harvest α}
  {brackets more : List Bracket}

/-- The nodes of a harvest are those that open among some objects, the references those that close. -/
structure Lists (conventions : Conventions) (harvest : Harvest α) (brackets : List Bracket) :
    Prop where
  kinds : harvest.nodes.map Node.kind = (conventions.openedKinds brackets).map some
  paths : harvest.references.map Reference.path = conventions.closedPaths brackets

namespace Lists

theorem plain (value : α) : (Harvest.plain value).Lists conventions [] := ⟨rfl, rfl⟩

theorem map (h : harvest.Lists conventions brackets) (f : α → β) :
    (harvest.map f).Lists conventions brackets := ⟨h.kinds, h.paths⟩

theorem combine {other : Harvest β} (h : harvest.Lists conventions brackets)
    (hmore : other.Lists conventions more) (f : α → β → γ) :
    (Harvest.combine f harvest other).Lists conventions (brackets ++ more) where
  kinds := by
    rw [Harvest.combine, List.map_append, h.kinds, hmore.kinds, Conventions.openedKinds_append,
      List.map_append]
  paths := by
    rw [Harvest.combine, List.map_append, h.paths, hmore.paths, Conventions.closedPaths_append]

variable {fields : List (String × Json)} {properties : Harvest Properties}

theorem node {kind : String} (h : properties.Lists conventions brackets)
    (hclass : conventions.classify fields = .node kind) (id : NodeId) :
    (Harvest.node id (some kind) properties).Lists conventions
      (.opening fields :: (brackets ++ [.closing fields])) where
  kinds := by
    rw [Harvest.node, List.map_cons, h.kinds, Conventions.openedKinds_object, hclass]
    rfl
  paths := by
    rw [Harvest.node, h.paths, Conventions.closedPaths_object, hclass]
    exact (List.append_nil _).symm

theorem reference {path : String} (h : properties.Lists conventions brackets)
    (hclass : conventions.classify fields = .reference path) (references : Nat) :
    (Harvest.reference references path properties).Lists conventions
      (.opening fields :: (brackets ++ [.closing fields])) where
  kinds := by
    rw [Harvest.reference, h.kinds, Conventions.openedKinds_object, hclass]
    rfl
  paths := by
    rw [Harvest.reference, List.map_append, h.paths, Conventions.closedPaths_object, hclass]
    rfl

theorem record (h : harvest.Lists conventions brackets)
    (hclass : conventions.classify fields = .record) :
    harvest.Lists conventions (.opening fields :: (brackets ++ [.closing fields])) where
  kinds := by
    rw [h.kinds, Conventions.openedKinds_object, hclass]
    rfl
  paths := by
    rw [h.paths, Conventions.closedPaths_object, hclass]
    exact (List.append_nil _).symm

end Lists

end Harvest

namespace Conventions

variable {conventions : Conventions}

/-- The fields but those under a name. -/
def fieldsExcept (skipped : Option String) (fields : List (String × Json)) :
    List (String × Json) :=
  fields.filter fun field => some field.1 != skipped

theorem fieldBrackets_except {skipped : Option String} {fields : List (String × Json)}
    (h : ∀ field ∈ fields, some field.1 = skipped → field.2.brackets = []) :
    Json.fieldBrackets (fieldsExcept skipped fields) = Json.fieldBrackets fields := by
  induction fields with
  | nil => rfl
  | cons field rest ih =>
    obtain ⟨name, value⟩ := field
    have hrest := ih fun field hmem => h field (List.mem_cons_of_mem _ hmem)
    rw [fieldsExcept] at hrest ⊢
    by_cases hname : some name = skipped
    · rw [List.filter_cons_of_neg (by simpa using hname), hrest, Json.fieldBrackets,
        h (name, value) List.mem_cons_self hname, ite_self, List.nil_append]
    · rw [List.filter_cons_of_pos (by simpa using hname), Json.fieldBrackets, hrest,
        Json.fieldBrackets]

/-- The field that gives an object its class holds a text, and so no object. -/
theorem brackets_of_textAt? {fields : List (String × Json)} {name text : String}
    (unique : (fields.map Prod.fst).Nodup) (h : textAt? fields name = some text) :
    ∀ field ∈ fields, some field.1 = some name → field.2.brackets = [] := by
  rintro ⟨_, value⟩ hmem hname
  obtain rfl := Option.some.inj hname
  rw [textAt?, (Json.lookup_eq_some_iff unique).mpr hmem, Option.bind_some] at h
  cases value with
  | string text => rfl
  | _ => cases h

mutual
theorem harvest_lists (conventions : Conventions) : ∀ (nodes references : Nat) (json : Json),
    json.hasUniqueKeys = true →
      (conventions.harvest nodes references json).Lists conventions json.brackets
  | _, _, .null, _ | _, _, .bool _, _ | _, _, .number _, _ | _, _, .string _, _ => .plain _
  | nodes, references, .array items, unique => by
    rw [harvest, Json.brackets]
    exact (harvestItems_lists conventions nodes references items
      ((Json.hasUniqueKeys_array items).mp unique)).map _
  | nodes, references, .object fields, unique => by
    obtain ⟨hkeys, hvalues⟩ := (Json.hasUniqueKeys_object fields).mp unique
    have hfields := fun skipped nodes references =>
      harvestFields_lists conventions skipped nodes references fields hvalues
    rw [harvest, Json.brackets]
    split
    · rename_i path hclass
      have hproperties := hfields (some conventions.refField) nodes references
      rw [fieldBrackets_except (brackets_of_textAt? hkeys (classify_eq_reference_iff.mp hclass))]
        at hproperties
      exact hproperties.reference hclass references
    · rename_i kind hclass
      have hproperties := hfields (some conventions.typeField) (nodes + 1) references
      rw [fieldBrackets_except (brackets_of_textAt? hkeys (classify_eq_node_iff.mp hclass).2)]
        at hproperties
      exact hproperties.node hclass ⟨nodes⟩
    · rename_i hclass
      have hproperties := hfields none nodes references
      rw [fieldBrackets_except fun _ _ hname => absurd hname (Option.some_ne_none _)] at hproperties
      exact (hproperties.map Value.record).record hclass
termination_by structural _ _ json => json

theorem harvestItems_lists (conventions : Conventions) :
    ∀ (nodes references : Nat) (items : List Json), (∀ item ∈ items, item.hasUniqueKeys = true) →
      (conventions.harvestItems nodes references items).Lists conventions (Json.itemBrackets items)
  | _, _, [], _ => .plain _
  | nodes, references, item :: rest, unique => by
    rw [harvestItems, Json.itemBrackets]
    exact (harvest_lists conventions _ _ item (unique item List.mem_cons_self)).combine
      (harvestItems_lists conventions _ _ rest
        fun other hmem => unique other (List.mem_cons_of_mem _ hmem)) _
termination_by structural _ _ items => items

theorem harvestFields_lists (conventions : Conventions) (skipped : Option String) :
    ∀ (nodes references : Nat) (fields : List (String × Json)),
      (∀ field ∈ fields, field.2.hasUniqueKeys = true) →
      (conventions.harvestFields skipped nodes references fields).Lists conventions
        (Json.fieldBrackets (fieldsExcept skipped fields))
  | _, _, [], _ => .plain _
  | nodes, references, (name, value) :: rest, unique => by
    have hvalue := harvest_lists conventions nodes references value
      (unique (name, value) List.mem_cons_self)
    have hrest := fun nodes references => harvestFields_lists conventions skipped nodes references rest
      fun field hmem => unique field (List.mem_cons_of_mem _ hmem)
    rw [harvestFields]
    by_cases hname : some name = skipped
    · rw [if_pos (by simp [hname]), fieldsExcept, List.filter_cons_of_neg (by simpa using hname)]
      exact hrest nodes references
    · rw [fieldsExcept, List.filter_cons_of_pos (by simpa using hname), Json.fieldBrackets]
      by_cases hcontainer : isContainerField name = true
      · rw [if_pos (by simp [hcontainer]), if_pos hcontainer]
        exact hrest nodes references
      · rw [if_neg (by simp [hcontainer, hname]), if_neg hcontainer]
        exact hvalue.combine (hrest _ _) _
termination_by structural _ _ fields => fields
end

/-! ## The root -/

def fieldsUnder (name : String) (fields : List (String × Json)) : List (String × Json) :=
  fields.filter fun field => some field.1 == some name

theorem fieldBrackets_eq_flatMap (fields : List (String × Json)) :
    Json.fieldBrackets fields =
      fields.flatMap fun field => if isContainerField field.1 then [] else field.2.brackets := by
  induction fields with
  | nil => rfl
  | cons field rest ih => rw [Json.fieldBrackets, ih, List.flatMap_cons]

theorem fieldBrackets_except_sublist (name : String) (fields : List (String × Json)) :
    (Json.fieldBrackets (fieldsExcept (some name) fields)).Sublist (Json.fieldBrackets fields) := by
  rw [fieldBrackets_eq_flatMap, fieldBrackets_eq_flatMap]
  exact List.filter_sublist.flatMap _

theorem fieldBrackets_perm (name : String) (fields : List (String × Json)) :
    (Json.fieldBrackets (fieldsUnder name fields) ++
      Json.fieldBrackets (fieldsExcept (some name) fields)).Perm (Json.fieldBrackets fields) := by
  simp only [fieldBrackets_eq_flatMap]
  rw [← List.flatMap_append]
  exact (List.filter_append_perm (fun field => some field.1 == some name) fields).flatMap_right _

/-- Leaving out the fields under a name loses nothing of a sort just if there is nothing of it. -/
theorem filterMap_except_iff (f : Bracket → Option String) (name : String)
    (fields : List (String × Json)) :
    (Json.fieldBrackets (fieldsExcept (some name) fields)).filterMap f =
        (Json.fieldBrackets fields).filterMap f ↔
      (Json.fieldBrackets (fieldsUnder name fields)).filterMap f = [] := by
  have hlength := ((fieldBrackets_perm name fields).filterMap f).length_eq
  rw [List.filterMap_append, List.length_append] at hlength
  constructor
  · intro hsame
    rw [hsame] at hlength
    exact List.length_eq_zero_iff.mp (by omega)
  · intro hnone
    rw [hnone, List.length_nil, Nat.zero_add] at hlength
    exact ((fieldBrackets_except_sublist name fields).filterMap f).eq_of_length hlength

theorem harvestRoot_lists (conventions : Conventions) {fields : List (String × Json)}
    (unique : (Json.object fields).hasUniqueKeys = true) :
    (conventions.harvestRoot fields).nodes.map Node.kind = textAt? fields conventions.typeField ::
        (conventions.openedKinds
          (Json.fieldBrackets (fieldsExcept (some conventions.typeField) fields))).map some ∧
      (conventions.harvestRoot fields).references.map Reference.path = conventions.closedPaths
        (Json.fieldBrackets (fieldsExcept (some conventions.typeField) fields)) := by
  have hproperties := conventions.harvestFields_lists (some conventions.typeField) 1 0 fields
    ((Json.hasUniqueKeys_object fields).mp unique).2
  rw [harvestRoot, Harvest.node, List.map_cons, hproperties.kinds]
  exact ⟨rfl, hproperties.paths⟩

end Conventions

/-! ## The order of the walk -/

/-- Of two nodes, and of two references, the first one has the smaller handle. -/
def Entry.HandleLt : Entry → Entry → Prop
  | node a, node b => a.index < b.index
  | reference a, reference b => a.index < b.index
  | _, _ => True

theorem Frontier.handleLt_of_within {a b c d : Frontier} {first second : Entry}
    (hfirst : Within a b first) (hsecond : Within c d second) (hbc : b.Precedes c) :
    first.HandleLt second := by
  have hnodes := hbc.1
  have hreferences := hbc.2
  cases first <;> cases second <;> simp only [Within, Entry.HandleLt] at * <;> omega

namespace LinkedTree

/-- A sequence between two frontiers whose handles go upwards. -/
structure Ascends (a b : Frontier) (sequence : List Entry) : Prop where
  within : ∀ entry ∈ sequence, a.Within b entry
  pairwise : sequence.Pairwise Entry.HandleLt

namespace Ascends

variable {a b c d : Frontier} {first second : List Entry}

theorem nil (a : Frontier) : Ascends a a [] :=
  ⟨fun _ hmem => absurd hmem List.not_mem_nil, List.Pairwise.nil⟩

theorem mono (h : Ascends c d first) (hac : a.Precedes c) (hdb : d.Precedes b) :
    Ascends a b first := ⟨fun entry hmem => (h.within entry hmem).mono hac hdb, h.pairwise⟩

theorem append (h : Ascends a b first) (hsecond : Ascends b c second) (hab : a.Precedes b)
    (hbc : b.Precedes c) : Ascends a c (first ++ second) where
  within entry hmem := by
    rcases List.mem_append.mp hmem with hmem | hmem
    · exact (h.within entry hmem).mono (.refl a) hbc
    · exact (hsecond.within entry hmem).mono hab (.refl c)
  pairwise := by
    rw [List.pairwise_append]
    refine ⟨h.pairwise, hsecond.pairwise, fun x hx y hy => ?_⟩
    exact Frontier.handleLt_of_within (h.within x hx) (hsecond.within y hy) (.refl b)

theorem node (a : Frontier) : Ascends a ⟨a.nodes + 1, a.references⟩ [.node ⟨a.nodes⟩] := by
  refine ⟨fun entry hmem => ?_, List.pairwise_singleton _ _⟩
  rw [← Frontier.mem_between, Frontier.between_node]
  exact hmem

theorem reference (a : Frontier) :
    Ascends a ⟨a.nodes, a.references + 1⟩ [.reference ⟨a.references⟩] := by
  refine ⟨fun entry hmem => ?_, List.pairwise_singleton _ _⟩
  rw [← Frontier.mem_between, Frontier.between_reference]
  exact hmem

end Ascends

/-- The walk through entries that are laid out stays between the frontiers and goes upwards. -/
theorem Laid.ascends_preOrder {tree : LinkedTree} {entries part sequence : List Entry}
    {a b : Frontier} (h : tree.Laid entries a b) (hpart : part.Sublist entries)
    (hsequence : tree.PreOrder part sequence) : Ascends a b sequence := by
  induction h generalizing part sequence with
  | nil a =>
    rw [List.sublist_nil.mp hpart] at hsequence
    cases hsequence
    exact .nil a
  | @node held rest a b c hcontents hheld hrest ihheld ihrest =>
    have hab := (Frontier.precedes_node a).trans hheld.precedes
    cases hpart with
    | cons _ hpart => exact (ihrest hpart hsequence).mono hab (.refl c)
    | cons_cons _ hpart =>
      cases hsequence with
      | @node _ node _ own later hnode hown hlater =>
        have hslots : (node.slots.map Slot.entry).Sublist held := by
          have hsame := (contents?_of_node? hnode).symm.trans hcontents
          rw [← Option.some.inj hsame]
          exact node.slots_sublist
        have hfirst := (Ascends.node a).append (ihheld hslots hown) (Frontier.precedes_node a)
          hheld.precedes
        exact hfirst.append (ihrest hpart hlater) hab hrest.precedes
  | @reference held rest a b c hcontents hheld hrest ihheld ihrest =>
    have hab := hheld.precedes.trans (Frontier.precedes_reference b)
    cases hpart with
    | cons _ hpart => exact (ihrest hpart hsequence).mono hab (.refl c)
    | cons_cons _ hpart =>
      cases hsequence with
      | reference hlater =>
        have hfirst := (Ascends.reference b).mono hheld.precedes (.refl _)
        exact hfirst.append (ihrest hpart hlater) hab hrest.precedes

/-- The nodes of a tree are numbered as they open in a document, its references as they close. -/
structure InDocumentOrder (tree : LinkedTree) (fields : List (String × Json)) : Prop where
  nodes : tree.nodes.toList.map Node.kind =
    Conventions.textAt? fields tree.conventions.typeField ::
      (tree.conventions.openedKinds (Json.fieldBrackets fields)).map some
  references : tree.references.toList.map Reference.path =
    tree.conventions.closedPaths (Json.fieldBrackets fields)

theorem kinds_eq_of_unlinked_eq {a b : LinkedTree} (h : a.unlinked = b.unlinked) :
    a.nodes.toList.map Node.kind = b.nodes.toList.map Node.kind := by
  have hkinds : ∀ tree : LinkedTree,
      tree.unlinked.nodes.toList.map Node.kind = tree.nodes.toList.map Node.kind := by
    intro tree
    simp [unlinked, Node.unlinked, Function.comp_def]
  rw [← hkinds a, h, hkinds]

theorem paths_eq_of_unlinked_eq {a b : LinkedTree} (h : a.unlinked = b.unlinked) :
    a.references.toList.map Reference.path = b.references.toList.map Reference.path := by
  have hpaths : ∀ tree : LinkedTree,
      tree.unlinked.references.toList.map Reference.path =
        tree.references.toList.map Reference.path := by
    intro tree
    simp [unlinked, Reference.unlinked, Function.comp_def]
  rw [← hpaths a, h, hpaths]

/-- A linked tree lists what a document holds besides the type field of its root. -/
theorem inDocumentOrder_link_iff (conventions : Conventions) {fields : List (String × Json)}
    (unique : (Json.object fields).hasUniqueKeys = true) :
    (conventions.build fields).link.InDocumentOrder fields ↔
      let read := Conventions.fieldsExcept (some conventions.typeField) fields
      conventions.openedKinds (Json.fieldBrackets read) =
          conventions.openedKinds (Json.fieldBrackets fields) ∧
        conventions.closedPaths (Json.fieldBrackets read) =
          conventions.closedPaths (Json.fieldBrackets fields) := by
  have hunlinked := (conventions.build fields).unlinked_link
  have hconventions : (conventions.build fields).link.conventions = conventions :=
    conventions_eq_of_unlinked_eq hunlinked
  obtain ⟨hkinds, hpaths⟩ := conventions.harvestRoot_lists unique
  have hnodes := (kinds_eq_of_unlinked_eq hunlinked).trans hkinds
  have hreferences := (paths_eq_of_unlinked_eq hunlinked).trans hpaths
  have hsome : Function.Injective (List.map (some : String → Option String)) :=
    List.map_injective_iff.mpr (Option.some_injective _)
  constructor
  · intro horder
    have hordered := horder.nodes
    have hclosed := horder.references
    rw [hconventions] at hordered hclosed
    exact ⟨hsome (List.cons.inj (hnodes.symm.trans hordered)).2, hreferences.symm.trans hclosed⟩
  · rintro ⟨hopened, hclosed⟩
    rw [hopened] at hnodes
    rw [hclosed] at hreferences
    constructor
    · rw [hconventions]
      exact hnodes
    · rw [hconventions]
      exact hreferences

/-- **Handles follow the order of the document**, nodes as they open and references as they close, just
where there is no node and no reference under the type field of the root; and the walk always meets both
kinds of handles in increasing order. -/
theorem documentOrder_iff (conventions : Conventions) (fields : List (String × Json))
    (unique : (Json.object fields).hasUniqueKeys = true) :
    ∃ tree, ofJson conventions (.object fields) = .ok tree ∧
      (tree.InDocumentOrder fields ↔ conventions.Unmarked
        (Json.fieldBrackets (Conventions.fieldsUnder conventions.typeField fields))) ∧
      tree.flatten.Pairwise Entry.HandleLt := by
  have hlinked := linked_laidOut conventions fields
  have hwalk := Laid.ascends_preOrder hlinked (List.Sublist.refl _) hlinked.preOrder_flatten
  refine ⟨_, ofJson_object conventions fields, ?_, hwalk.pairwise⟩
  have hkinds := Conventions.filterMap_except_iff conventions.openedKind? conventions.typeField fields
  have hpaths := Conventions.filterMap_except_iff conventions.closedPath? conventions.typeField fields
  rw [inDocumentOrder_link_iff conventions unique]
  exact and_congr hkinds hpaths

theorem documentOrder_iff_nested :
    (Json.object nestedDocument).hasUniqueKeys = true ∧
      ∃ tree, ofJson {} (.object nestedDocument) = .ok tree ∧
        (tree.InDocumentOrder nestedDocument ↔ Conventions.Unmarked {}
          (Json.fieldBrackets (Conventions.fieldsUnder "$type" nestedDocument))) ∧
        tree.flatten.Pairwise Entry.HandleLt :=
  ⟨by decide, documentOrder_iff {} nestedDocument (by decide)⟩

/-- A document with a node under the type field of its root. -/
def hiddenDocument : List (String × Json) := [("$type", .object [("$type", .string "A")])]

/-- The node under the type field of a root is not built. -/
theorem documentOrder_misses_node_of_root :
    (Json.object hiddenDocument).hasUniqueKeys = true ∧
      Conventions.openedKinds {} (Json.fieldBrackets hiddenDocument) = ["A"] ∧
      ∃ tree, ofJson {} (.object hiddenDocument) = .ok tree ∧
        tree.nodes.toList.map Node.kind = [none] ∧ ¬ tree.InDocumentOrder hiddenDocument := by
  refine ⟨by decide, by decide, _, rfl, by decide, fun horder => ?_⟩
  have hkinds := horder.nodes
  revert hkinds
  decide

end LinkedTree

end EditorBridge
