import EditorBridge.Proofs.Tree.Alike
import EditorBridge.Proofs.Tree.Relinking
/-!
The order of keys.  Documents that differ in the order of keys only are built into trees with other
handles, in which every value has its like (`Conventions.makesAlike_of_sameData`).  So the trees resemble
each other, and their statistics are the same (`LinkedTree.statistics_eq_of_sameData`).
-/

set_option autoImplicit false

namespace EditorBridge

namespace Conventions

variable {conventions : Conventions} {s t tree : LinkedTree}

/-- A value is what is made of a piece of JSON, and the arenas hold all that is harvested with it. -/
def MadeOf (conventions : Conventions) (tree : LinkedTree) (json : Json) (value : Value) : Prop :=
  ∃ a : Frontier, (conventions.harvest a.nodes a.references json).StoredIn tree a ∧
    (conventions.harvest a.nodes a.references json).value = value

/-- Whatever is made of two pieces of JSON in two trees is alike. -/
def MakesAlike (conventions : Conventions) (s t : LinkedTree) (json other : Json) : Prop :=
  ∀ value counterpart, conventions.MadeOf s json value → conventions.MadeOf t other counterpart →
    s.Alike t value counterpart

/-! ## What items and properties are made of -/

theorem length_harvestItems (conventions : Conventions) : ∀ (a : Frontier) (items : List Json),
    (conventions.harvestItems a.nodes a.references items).value.length = items.length
  | _, [] => rfl
  | a, item :: rest => by
    rw [harvestItems_cons, List.length_cons]
    exact congrArg Nat.succ (length_harvestItems conventions _ rest)

theorem getElem?_harvestItems : ∀ (a : Frontier) (items : List Json),
    (conventions.harvestItems a.nodes a.references items).StoredIn tree a → ∀ index : Nat,
    Option.Rel (conventions.MadeOf tree) items[index]?
      (conventions.harvestItems a.nodes a.references items).value[index]?
  | _, [], _, _ => .none
  | a, item :: rest, h, index => by
    rw [harvestItems_cons] at h ⊢
    obtain ⟨hitem, hrest⟩ := h.of_combine
    cases index with
    | zero => exact .some ⟨a, hitem, rfl⟩
    | succ index => exact getElem?_harvestItems _ rest hrest index

theorem lookup_harvestFields (skipped : Option String) (key : String) :
    ∀ (a : Frontier) (fields : List (String × Json)),
    (conventions.harvestFields skipped a.nodes a.references fields).StoredIn tree a →
    Option.Rel (conventions.MadeOf tree) (if drops skipped key then none else Json.lookup fields key)
      (Json.lookup (conventions.harvestFields skipped a.nodes a.references fields).value key)
  | _, [], _ => by
    rw [show Json.lookup ([] : List (String × Json)) key = none from rfl, ite_self]
    exact .none
  | a, (name, value) :: rest, h => by
    cases hname : drops skipped name with
    | true =>
      rw [harvestFields_cons_of_dropped _ _ _ _ hname] at h ⊢
      have hrest := lookup_harvestFields skipped key a rest h
      by_cases hkey : name = key
      · rwa [← hkey, hname, if_pos rfl] at hrest ⊢
      · rwa [Json.lookup_cons, if_neg hkey]
    | false =>
      rw [harvestFields_cons_of_kept _ _ _ _ hname] at h ⊢
      obtain ⟨hvalue, hrest⟩ := h.of_combine
      have hrest := lookup_harvestFields skipped key _ rest hrest
      change Option.Rel _ _ (Json.lookup ((name, _) :: _) key)
      rw [Json.lookup_cons, Json.lookup_cons]
      by_cases hkey : name = key
      · rw [if_pos hkey, if_pos hkey, ← hkey, hname, if_neg Bool.false_ne_true]
        exact .some ⟨a, hvalue, rfl⟩
      · rwa [if_neg hkey, if_neg hkey]

/-! ## Documents with the same data -/

section SameData

variable {fields others : List (String × Json)}

/-- Fields with the same keys and with values of which alike things are made become alike properties. -/
theorem harvestFields_alike (unique : (Json.object fields).hasUniqueKeys = true)
    (others_unique : (Json.object others).hasUniqueKeys = true)
    (keys : ∀ key, (Json.lookup fields key).isSome = (Json.lookup others key).isSome)
    (values : ∀ key x y, Json.lookup fields key = some x → Json.lookup others key = some y →
      conventions.MakesAlike s t x y)
    (skipped : Option String) (a b : Frontier)
    (hfields : (conventions.harvestFields skipped a.nodes a.references fields).StoredIn s a)
    (hothers : (conventions.harvestFields skipped b.nodes b.references others).StoredIn t b) :
    s.Alike t (.record (conventions.harvestFields skipped a.nodes a.references fields).value)
      (.record (conventions.harvestFields skipped b.nodes b.references others).value) := by
  have hleft := fun key => lookup_harvestFields skipped key a fields hfields
  have hright := fun key => lookup_harvestFields skipped key b others hothers
  refine .record (conventions.nodup_harvestFields skipped a unique)
    (conventions.nodup_harvestFields skipped b others_unique) (fun key => ?_) fun key v w hv hw => ?_
  · rw [← Json.isSome_eq_of_rel (hleft key), ← Json.isSome_eq_of_rel (hright key)]
    cases drops skipped key with
    | true => rfl
    | false => exact keys key
  · have hx := hleft key
    have hy := hright key
    rw [hv] at hx
    rw [hw] at hy
    cases hdrops : drops skipped key with
    | true =>
      rw [hdrops] at hx
      cases hx
    | false =>
      rw [hdrops, if_neg Bool.false_ne_true] at hx hy
      obtain ⟨x, hlookup, hmade⟩ := Json.exists_of_rel_some hx
      obtain ⟨y, hlookup', hmade'⟩ := Json.exists_of_rel_some hy
      exact values key x y hlookup hlookup' v w hmade hmade'

theorem textAt?_eq (keys : ∀ key, (Json.lookup fields key).isSome = (Json.lookup others key).isSome)
    (values : ∀ key x y, Json.lookup fields key = some x → Json.lookup others key = some y →
      Json.SameData x y) (name : String) : textAt? fields name = textAt? others name := by
  have hrel := Json.rel_of_isSome_eq (keys name) (values name)
  rw [textAt?, textAt?]
  generalize Json.lookup fields name = x at hrel ⊢
  generalize Json.lookup others name = y at hrel ⊢
  cases hrel with
  | none => rfl
  | some hsame => cases hsame <;> rfl

/-- Of the same data alike things are made, wherever it stands in its document. -/
theorem makesAlike_of_sameData {json other : Json} (same : Json.SameData json other)
    (unique : json.hasUniqueKeys = true) (other_unique : other.hasUniqueKeys = true) :
    conventions.MakesAlike s t json other := by
  induction same with
  | null =>
    rintro _ _ ⟨a, _, rfl⟩ ⟨b, _, rfl⟩
    exact .null
  | bool value =>
    rintro _ _ ⟨a, _, rfl⟩ ⟨b, _, rfl⟩
    exact .bool value
  | number value =>
    rintro _ _ ⟨a, _, rfl⟩ ⟨b, _, rfl⟩
    exact .number value
  | string value =>
    rintro _ _ ⟨a, _, rfl⟩ ⟨b, _, rfl⟩
    exact .string value
  | @array items others length _ ih =>
    rintro _ _ ⟨a, hitems, rfl⟩ ⟨b, hothers, rfl⟩
    rw [harvest] at hitems hothers
    have hunique := (Json.hasUniqueKeys_array items).mp unique
    have hunique' := (Json.hasUniqueKeys_array others).mp other_unique
    refine .array ?_ fun index v w hv hw => ?_
    · rw [length_harvestItems, length_harvestItems, length]
    · have hx := getElem?_harvestItems a items hitems.of_map index
      have hy := getElem?_harvestItems b others hothers.of_map index
      rw [hv] at hx
      rw [hw] at hy
      obtain ⟨x, hitem, hmade⟩ := Json.exists_of_rel_some hx
      obtain ⟨y, hother, hmade'⟩ := Json.exists_of_rel_some hy
      exact ih index x y hitem hother (hunique x (List.mem_of_getElem? hitem))
        (hunique' y (List.mem_of_getElem? hother)) v w hmade hmade'
  | @object fields others keys fields_same ih =>
    rintro _ _ ⟨a, hfields, rfl⟩ ⟨b, hothers, rfl⟩
    have hunique := ((Json.hasUniqueKeys_object fields).mp unique).2
    have hunique' := ((Json.hasUniqueKeys_object others).mp other_unique).2
    have htext := textAt?_eq keys fields_same
    have hclass := classify_congr (htext conventions.refField) (htext conventions.typeField)
    have hproperties := fun skipped => harvestFields_alike unique other_unique keys
      (fun key x y hx hy => ih key x y hx hy (hunique _ (Json.mem_of_lookup hx))
        (hunique' _ (Json.mem_of_lookup hy))) skipped
    cases hkind : conventions.classify fields with
    | reference path =>
      simp only [harvest, ← hclass, hkind] at hfields hothers ⊢
      obtain ⟨hreference, hfields⟩ := hfields.of_reference
      obtain ⟨hcounterpart, hothers⟩ := hothers.of_reference
      exact .reference hreference hcounterpart rfl (hproperties _ a b hfields hothers)
    | node kind =>
      simp only [harvest, ← hclass, hkind] at hfields hothers ⊢
      obtain ⟨hnode, hfields⟩ := hfields.of_node
      obtain ⟨hcounterpart, hothers⟩ := hothers.of_node
      exact .node hnode hcounterpart rfl (hproperties _ ⟨a.nodes + 1, a.references⟩
        ⟨b.nodes + 1, b.references⟩ hfields hothers)
    | record =>
      simp only [harvest, ← hclass, hkind] at hfields hothers ⊢
      exact hproperties none a b hfields.of_map hothers.of_map

/-- Documents with the same data are built into trees that resemble each other. -/
theorem build_resembles (unique : (Json.object fields).hasUniqueKeys = true)
    (others_unique : (Json.object others).hasUniqueKeys = true)
    (same : Json.SameData (.object fields) (.object others)) :
    (conventions.build fields).Resembles (conventions.build others) := by
  cases same with
  | object keys fields_same =>
    have hunique := ((Json.hasUniqueKeys_object fields).mp unique).2
    have hunique' := ((Json.hasUniqueKeys_object others).mp others_unique).2
    obtain ⟨hnode, hfields⟩ := (conventions.build_storedIn fields).of_node
    obtain ⟨hcounterpart, hothers⟩ := (conventions.build_storedIn others).of_node
    have hproperties := harvestFields_alike unique others_unique keys
      (fun key x y hx hy => makesAlike_of_sameData (fields_same key x y hx hy)
        (hunique _ (Json.mem_of_lookup hx)) (hunique' _ (Json.mem_of_lookup hy)))
      (some conventions.typeField) ⟨1, 0⟩ ⟨1, 0⟩ hfields hothers
    exact ⟨rfl, .node hnode hcounterpart (textAt?_eq keys fields_same _) hproperties⟩

end SameData

end Conventions

namespace LinkedTree

/-- **Statistics do not depend on the order of keys.**  Documents without repeated keys that hold the same
data are linked into trees with the same counts of nodes, of references, of resolved and unresolved ones,
and of each kind. -/
theorem statistics_eq_of_sameData (conventions : Conventions) (fields others : List (String × Json))
    (unique : (Json.object fields).hasUniqueKeys = true)
    (others_unique : (Json.object others).hasUniqueKeys = true)
    (same : Json.SameData (.object fields) (.object others)) :
    ∃ tree counterpart, ofJson conventions (.object fields) = .ok tree ∧
      ofJson conventions (.object others) = .ok counterpart ∧
      tree.statistics = counterpart.statistics :=
  ⟨_, _, ofJson_object conventions fields, ofJson_object conventions others,
    (conventions.build_resembles unique others_unique same).statistics_link
      (conventions.build_laidOut fields) (conventions.build_laidOut others)⟩

/-- A document whose references lead to a node and nowhere. -/
def orderedDocument : List (String × Json) :=
  [("$type", .string "Model"),
    ("items", .array [.object [("$type", .string "Item")],
      .object [("$type", .string "Item"), ("uses", .object [("$ref", .string "#/items@0"),
        ("text", .null)])]]),
    ("last", .object [("$ref", .string "#/items@7")])]

/-- That document with the keys of its objects in the opposite order. -/
def reorderedDocument : List (String × Json) :=
  [("last", .object [("$ref", .string "#/items@7")]),
    ("items", .array [.object [("$type", .string "Item")],
      .object [("uses", .object [("text", .null), ("$ref", .string "#/items@0")]),
        ("$type", .string "Item")]]),
    ("$type", .string "Model")]

theorem reorderedDocument_sameData :
    Json.SameData (.object orderedDocument) (.object reorderedDocument) := by
  have huses : Json.SameData (.object [("$ref", .string "#/items@0"), ("text", .null)])
      (.object [("text", .null), ("$ref", .string "#/items@0")]) :=
    .of_perm (.swap _ _ []) (.cons ⟨rfl, .string _⟩ (.cons ⟨rfl, .null⟩ .nil)) (by decide)
  have hitem : Json.SameData (.object [("$type", .string "Item")])
      (.object [("$type", .string "Item")]) :=
    .of_perm (.refl _) (.cons ⟨rfl, .string _⟩ .nil) (by decide)
  have hlast : Json.SameData (.object [("$ref", .string "#/items@7")])
      (.object [("$ref", .string "#/items@7")]) :=
    .of_perm (.refl _) (.cons ⟨rfl, .string _⟩ .nil) (by decide)
  have huser : Json.SameData
      (.object [("$type", .string "Item"), ("uses", .object [("$ref", .string "#/items@0"),
        ("text", .null)])])
      (.object [("uses", .object [("text", .null), ("$ref", .string "#/items@0")]),
        ("$type", .string "Item")]) :=
    .of_perm (.swap _ _ []) (.cons ⟨rfl, .string _⟩ (.cons ⟨rfl, huses⟩ .nil)) (by decide)
  exact .of_perm (List.reverse_perm reorderedDocument) (.cons ⟨rfl, .string _⟩
    (.cons ⟨rfl, .of_forall₂ (.cons hitem (.cons huser .nil))⟩ (.cons ⟨rfl, hlast⟩ .nil)))
    (by decide)

theorem statistics_eq_of_sameData_reversed :
    (Json.object orderedDocument).hasUniqueKeys = true ∧
      (Json.object reorderedDocument).hasUniqueKeys = true ∧
      Json.SameData (.object orderedDocument) (.object reorderedDocument) ∧
      ∃ tree counterpart, ofJson {} (.object orderedDocument) = .ok tree ∧
        ofJson {} (.object reorderedDocument) = .ok counterpart ∧
        tree.statistics = counterpart.statistics :=
  ⟨by decide, by decide, reorderedDocument_sameData,
    statistics_eq_of_sameData {} orderedDocument reorderedDocument (by decide) (by decide)
      reorderedDocument_sameData⟩

end LinkedTree

end EditorBridge
