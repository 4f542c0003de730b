import EditorBridge.Proofs.Json.SameData
import EditorBridge.Proofs.Tree.Counting
import EditorBridge.Proofs.Tree.PreOrder
import Mathlib.Data.Multiset.Bind
/-!
Trees that are alike.  `LinkedTree.Alike` compares values of two trees through their handles and
regardless of the order of properties.  Where the roots are alike, every path leads to alike nodes
(`LinkedTree.Resembles.resolve?`), and the walks go through alike entries in some order
(`LinkedTree.Resembles.flatten`), so both trees have the same statistics.
-/

set_option autoImplicit false

namespace EditorBridge

namespace LinkedTree

/-- Two values of two trees are alike: they differ in handles and in the order of properties only. -/
inductive Alike (s t : LinkedTree) : Value → Value → Prop
  | null : Alike s t .null .null
  | bool (value : Bool) : Alike s t (.bool value) (.bool value)
  | number (value : Number) : Alike s t (.number value) (.number value)
  | string (value : String) : Alike s t (.string value) (.string value)
  | array {items others : List Value} (length : items.length = others.length)
      (items_alike : ∀ (index : Nat) (x y : Value),
        items[index]? = some x → others[index]? = some y → Alike s t x y) :
      Alike s t (.array items) (.array others)
  | record {fields others : Properties} (unique : (fields.map Prod.fst).Nodup)
      (others_unique : (others.map Prod.fst).Nodup)
      (keys : ∀ key, (Json.lookup fields key).isSome = (Json.lookup others key).isSome)
      (fields_alike : ∀ (key : String) (x y : Value),
        Json.lookup fields key = some x → Json.lookup others key = some y → Alike s t x y) :
      Alike s t (.record fields) (.record others)
  | node {id other : NodeId} {node counterpart : Node} (node_eq : s.node? id = some node)
      (counterpart_eq : t.node? other = some counterpart) (kind : node.kind = counterpart.kind)
      (properties : Alike s t (.record node.properties) (.record counterpart.properties)) :
      Alike s t (.node id) (.node other)
  | reference {id other : ReferenceId} {reference counterpart : Reference}
      (reference_eq : s.reference? id = some reference)
      (counterpart_eq : t.reference? other = some counterpart)
      (path : reference.path = counterpart.path)
      (properties : Alike s t (.record reference.properties) (.record counterpart.properties)) :
      Alike s t (.reference id) (.reference other)

/-- Two trees of the same conventions have alike roots. -/
structure Resembles (s t : LinkedTree) : Prop where
  conventions : s.conventions = t.conventions
  root : s.Alike t (.node s.root) (.node t.root)

variable {s t : LinkedTree}

/-! ## Paths -/

theorem rel_bind {α β γ δ : Type} {p : α → β → Prop} {q : γ → δ → Prop} {x : Option α} {y : Option β}
    {f : α → Option γ} {g : β → Option δ} (h : Option.Rel p x y)
    (hnext : ∀ a b, p a b → Option.Rel q (f a) (g b)) : Option.Rel q (x.bind f) (y.bind g) := by
  cases h with
  | some hab => exact hnext _ _ hab
  | none => exact .none

namespace Alike

variable {value other : Value}

theorem lookup {fields others : Properties} (h : s.Alike t (.record fields) (.record others))
    (key : String) :
    Option.Rel (s.Alike t) (Json.lookup fields key) (Json.lookup others key) := by
  cases h with
  | record _ _ keys fields_alike => exact Json.rel_of_isSome_eq (keys key) (fields_alike key)

theorem getElem? {items others : List Value} (h : s.Alike t (.array items) (.array others))
    (index : Nat) : Option.Rel (s.Alike t) items[index]? others[index]? := by
  cases h with
  | array length items_alike =>
    exact Json.rel_of_isSome_eq (by rw [Bool.eq_iff_iff]; simp [length]) (items_alike index)

/-- The properties by which alike values can be followed are alike. -/
theorem propertiesOf? (h : s.Alike t value other) :
    Option.Rel (fun fields others => s.Alike t (.record fields) (.record others))
      (s.propertiesOf? value) (t.propertiesOf? other) := by
  cases h with
  | record unique others_unique keys fields_alike =>
    exact .some (.record unique others_unique keys fields_alike)
  | node node_eq counterpart_eq _ properties =>
    rw [LinkedTree.propertiesOf?, LinkedTree.propertiesOf?, node_eq, counterpart_eq]
    exact .some properties
  | _ => exact .none

theorem asArray? (h : s.Alike t value other) :
    Option.Rel (fun items others => s.Alike t (.array items) (.array others)) value.asArray?
      other.asArray? := by
  cases h with
  | array length items_alike => exact .some (.array length items_alike)
  | _ => exact .none

theorem asNode? (h : s.Alike t value other) :
    Option.Rel (fun id other => s.Alike t (.node id) (.node other)) value.asNode?
      other.asNode? := by
  cases h with
  | node node_eq counterpart_eq kind properties =>
    exact .some (.node node_eq counterpart_eq kind properties)
  | _ => exact .none

/-- One step leads from alike values to alike values. -/
theorem step? (h : s.Alike t value other) (segment : Conventions.Segment) :
    Option.Rel (s.Alike t) (s.step? value segment) (t.step? other segment) := by
  obtain ⟨property, index⟩ := segment
  refine rel_bind h.propertiesOf? fun fields others hfields => ?_
  refine rel_bind (hfields.lookup property) fun held counterpart hheld => ?_
  cases index with
  | none => exact .some hheld
  | some index => exact rel_bind hheld.asArray? fun items others hitems => hitems.getElem? index

theorem follow? (h : s.Alike t value other) (segments : List Conventions.Segment) :
    Option.Rel (s.Alike t) (s.follow? value segments) (t.follow? other segments) := by
  induction segments generalizing value other with
  | nil => exact .some h
  | cons segment rest ih => exact rel_bind (h.step? segment) fun _ _ hnext => ih hnext

end Alike

/-- Every path leads to alike nodes, or nowhere in both trees. -/
theorem Resembles.resolve? (h : s.Resembles t) (path : String) :
    Option.Rel (fun id other => s.Alike t (.node id) (.node other)) (s.resolve? path)
      (t.resolve? path) := by
  rw [LinkedTree.resolve?, LinkedTree.resolve?, h.conventions]
  cases t.conventions.segments path with
  | none => exact .none
  | some segments =>
    change Option.Rel _ ((s.follow? (.node s.root) segments).bind Value.asNode?)
      ((t.follow? (.node t.root) segments).bind Value.asNode?)
    exact rel_bind (h.root.follow? segments) fun _ _ hvalue => hvalue.asNode?

end LinkedTree

/-! ## What is in slots -/

def Entry.value : Entry → Value
  | .node id => .node id
  | .reference id => .reference id

namespace Value

def slotted : Value → List Entry
  | array items => items.filterMap asEntry?
  | value => value.asEntry?.toList

theorem map_entry_slots (property : String) (value : Value) :
    (value.slots property).map Slot.entry = value.slotted := by
  have hvalue : ∀ entry : Option Entry,
      (entry.toList.map fun entry => (⟨property, none, entry⟩ : Slot)).map Slot.entry =
        entry.toList := by
    rintro (_ | _) <;> rfl
  cases value with
  | array items =>
    have hitem : ∀ (entry : Option Entry) (index : Nat), (entry.map fun entry =>
        (⟨property, some index, entry⟩ : Slot)).map Slot.entry = entry := by
      rintro (_ | _) _ <;> rfl
    rw [slots, List.map_filterMap]
    simp only [hitem]
    conv_rhs => rw [slotted, ← List.zipIdx_map_fst 0 items, List.filterMap_map]
    rfl
  | _ => exact hvalue _

end Value

theorem Node.map_entry_slots (node : Node) :
    node.slots.map Slot.entry = node.properties.flatMap fun property => property.2.slotted := by
  rw [slots, List.map_flatMap]
  simp only [Value.map_entry_slots]

namespace LinkedTree

variable {s t : LinkedTree}

/-- Two entries of two trees are alike. -/
def EntriesAlike (s t : LinkedTree) (entry other : Entry) : Prop :=
  s.Alike t entry.value other.value

namespace Alike

variable {value other : Value}

theorem asEntry? (h : s.Alike t value other) :
    Option.Rel (s.EntriesAlike t) value.asEntry? other.asEntry? := by
  cases h with
  | node node_eq counterpart_eq kind properties =>
    exact .some (.node node_eq counterpart_eq kind properties)
  | reference reference_eq counterpart_eq path properties =>
    exact .some (.reference reference_eq counterpart_eq path properties)
  | _ => exact .none

/-- The slots of alike values hold alike entries. -/
theorem slotted (h : s.Alike t value other) :
    Multiset.Rel (s.EntriesAlike t) ↑value.slotted ↑other.slotted := by
  cases h with
  | array length items_alike =>
    have hitems : List.Forall₂ (s.Alike t) _ _ := List.forall₂_iff_get.mpr ⟨length,
      fun index hx hy => items_alike index _ _ (List.getElem?_eq_getElem hx)
        (List.getElem?_eq_getElem hy)⟩
    clear length items_alike
    rw [Value.slotted, Value.slotted]
    induction hitems with
    | nil => exact .zero
    | @cons item other _ _ hitem _ ih =>
      have hentry := hitem.asEntry?
      rw [List.filterMap_cons, List.filterMap_cons]
      generalize item.asEntry? = entry at hentry ⊢
      generalize other.asEntry? = counterpart at hentry ⊢
      cases hentry with
      | none => exact ih
      | some hsame => exact .cons hsame ih
  | node node_eq counterpart_eq kind properties =>
    exact .cons (.node node_eq counterpart_eq kind properties) .zero
  | reference reference_eq counterpart_eq path properties =>
    exact .cons (.reference reference_eq counterpart_eq path properties) .zero
  | _ => exact .zero

/-- The slots of nodes with alike properties hold alike entries. -/
theorem slots {node counterpart : Node}
    (h : s.Alike t (.record node.properties) (.record counterpart.properties)) :
    Multiset.Rel (s.EntriesAlike t) ↑(node.slots.map Slot.entry)
      ↑(counterpart.slots.map Slot.entry) := by
  cases h with
  | record unique others_unique keys fields_alike =>
    have hfields := Json.rel_of_lookup unique others_unique keys fields_alike
    rw [Node.map_entry_slots, Node.map_entry_slots, ← Multiset.coe_bind, ← Multiset.coe_bind]
    exact Multiset.rel_bind (fun _ _ hfield => hfield.2.slotted) hfields

end Alike

/-! ## Walks -/

/-- The first of some entries has an entry that it is alike, which can be moved to the front. -/
theorem exists_perm_of_rel_cons {r : Entry → Entry → Prop} {entry : Entry}
    {rest others : List Entry} (h : Multiset.Rel r ↑(entry :: rest) ↑others) :
    ∃ (other : Entry) (left : List Entry), r entry other ∧ Multiset.Rel r ↑rest ↑left ∧
      (other :: left).Perm others := by
  rw [← Multiset.cons_coe, Multiset.rel_cons_left] at h
  obtain ⟨other, left, hother, hleft, hothers⟩ := h
  rw [← left.coe_toList] at hleft hothers
  exact ⟨other, left.toList, hother, hleft, Multiset.coe_eq_coe.mp hothers.symm⟩

/-- Alike entries have alike sequences, up to the order. -/
theorem PreOrder.alike {entries others sequence : List Entry} (h : s.PreOrder entries sequence)
    (hentries : Multiset.Rel (s.EntriesAlike t) ↑entries ↑others) :
    ∃ later, t.PreOrder others later ∧ Multiset.Rel (s.EntriesAlike t) ↑sequence ↑later := by
  induction h generalizing others with
  | nil =>
    rw [Multiset.coe_nil, Multiset.rel_zero_left, Multiset.coe_eq_zero] at hentries
    rw [hentries]
    exact ⟨[], .nil, .zero⟩
  | @reference id rest following _ ih =>
    obtain ⟨other, left, hother, hleft, hperm⟩ := exists_perm_of_rel_cons hentries
    obtain ⟨later, hlater, hsame⟩ := ih hleft
    cases other with
    | node => cases hother
    | reference other =>
      obtain ⟨sequence, hsequence, hmoved⟩ := (PreOrder.reference hlater).perm hperm
      refine ⟨sequence, hsequence, ?_⟩
      rw [← Multiset.coe_eq_coe.mpr hmoved]
      exact .cons hother hsame
  | @node id node rest own following hnode _ _ ihown ihfollowing =>
    obtain ⟨other, left, hother, hleft, hperm⟩ := exists_perm_of_rel_cons hentries
    obtain ⟨later, hlater, hsame⟩ := ihfollowing hleft
    cases other with
    | reference => cases hother
    | node other =>
      have halike := hother
      cases hother with
      | @node _ _ _ counterpart node_eq counterpart_eq kind properties =>
        obtain rfl := Option.some.inj (node_eq.symm.trans hnode)
        obtain ⟨below, hbelow, hsameBelow⟩ := ihown properties.slots
        obtain ⟨sequence, hsequence, hmoved⟩ :=
          (PreOrder.node counterpart_eq hbelow hlater).perm hperm
        refine ⟨sequence, hsequence, ?_⟩
        rw [← Multiset.coe_eq_coe.mpr hmoved]
        exact .cons halike (hsameBelow.add hsame)

namespace Resembles

theorem prospect_eq (h : s.Resembles t) {entry other : Entry} (halike : s.EntriesAlike t entry other) :
    s.prospect entry = t.prospect other := by
  cases entry with
  | node id =>
    cases other with
    | reference => cases halike
    | node other =>
      cases halike with
      | node node_eq counterpart_eq kind properties =>
        simp only [prospect, node_eq, counterpart_eq, Option.map_some, Node.kindName, kind]
  | reference id =>
    cases other with
    | node => cases halike
    | reference other =>
      cases halike with
      | @reference _ _ _ counterpart reference_eq counterpart_eq path properties =>
        have hsome := Json.isSome_eq_of_rel (h.resolve? counterpart.path)
        simp only [prospect, reference_eq, counterpart_eq, Option.bind_some, path, hsome]

/-- The walks go through alike entries, up to the order. -/
theorem flatten (h : s.Resembles t) (hs : s.LaidOut) (ht : t.LaidOut) :
    Multiset.Rel (s.EntriesAlike t) ↑s.flatten ↑t.flatten := by
  obtain ⟨sequence, hsequence, hsame⟩ := hs.preOrder_flatten.alike (t := t)
    (Multiset.Rel.cons (b := .node t.root) h.root .zero)
  rwa [ht.preOrder_iff.mp hsequence] at hsame

/-- Once they are linked, both trees have the same statistics. -/
theorem statistics_link (h : s.Resembles t) (hs : s.LaidOut) (ht : t.LaidOut) :
    s.link.statistics = t.link.statistics := by
  have hprospects : (s.flatten.map s.prospect).Perm (t.flatten.map t.prospect) := by
    rw [← Multiset.coe_eq_coe, ← Multiset.map_coe, ← Multiset.map_coe, ← Multiset.rel_eq,
      Multiset.rel_map]
    exact (h.flatten hs ht).mono fun _ _ _ _ halike => h.prospect_eq halike
  rw [hs.statistics_link, ht.statistics_link]
  exact Statistics.foldl_add_eq_of_perm hprospects _

end Resembles

end LinkedTree

end EditorBridge
