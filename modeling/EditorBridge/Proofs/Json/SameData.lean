import EditorBridge.Proofs.Json.Keys
import Mathlib.Data.List.Forall2
import Mathlib.Data.Multiset.ZeroCons
/-!
Data regardless of the order of fields.  Two objects hold the same data if they have the same keys and
under each key the same data (`Json.SameData`); `Json.without` leaves out fields at every depth, and
`Json.SameDataWithout` compares what remains.
-/

set_option autoImplicit false

namespace EditorBridge.Json

/-- Two values hold the same data: they differ in the order of fields only. -/
inductive SameData : Json → Json → Prop
  | null : SameData null null
  | bool (value : Bool) : SameData (bool value) (bool value)
  | number (value : Number) : SameData (number value) (number value)
  | string (value : String) : SameData (string value) (string value)
  | array {items others : List Json} (length : items.length = others.length)
      (items_same : ∀ (index : Nat) (x y : Json),
        items[index]? = some x → others[index]? = some y → SameData x y) :
      SameData (array items) (array others)
  | object {fields others : List (String × Json)}
      (keys : ∀ key, (lookup fields key).isSome = (lookup others key).isSome)
      (fields_same : ∀ (key : String) (x y : Json),
        lookup fields key = some x → lookup others key = some y → SameData x y) :
      SameData (object fields) (object others)

/-! ## Fields in any order -/

theorem isSome_eq_of_rel {α β : Type} {r : α → β → Prop} {x : Option α} {y : Option β}
    (h : Option.Rel r x y) : x.isSome = y.isSome := by
  cases h <;> rfl

theorem rel_of_isSome_eq {α β : Type} {r : α → β → Prop} {x : Option α} {y : Option β}
    (h : x.isSome = y.isSome) (hvalues : ∀ a b, x = some a → y = some b → r a b) :
    Option.Rel r x y := by
  cases x with
  | none =>
    cases y with
    | none => exact .none
    | some b => exact absurd h (by simp)
  | some a =>
    obtain ⟨b, rfl⟩ := Option.isSome_iff_exists.mp h.symm
    exact .some (hvalues a b rfl rfl)

theorem exists_of_rel_some {α β : Type} {r : α → β → Prop} {x : Option α} {b : β}
    (h : Option.Rel r x (some b)) : ∃ a, x = some a ∧ r a b := by
  cases h with
  | some hab => exact ⟨_, rfl, hab⟩

/-- Two fields have the same key and related values. -/
def FieldsRelated {α β : Type} (r : α → β → Prop) (field : String × α) (other : String × β) : Prop :=
  field.1 = other.1 ∧ r field.2 other.2

/-- Fields that are related key by key, no key being repeated, are related up to their order. -/
theorem rel_of_lookup {α β : Type} {r : α → β → Prop} {fields : List (String × α)}
    {others : List (String × β)} (unique : (fields.map Prod.fst).Nodup)
    (others_unique : (others.map Prod.fst).Nodup)
    (keys : ∀ key, (lookup fields key).isSome = (lookup others key).isSome)
    (values : ∀ key x y, lookup fields key = some x → lookup others key = some y → r x y) :
    Multiset.Rel (FieldsRelated r) ↑fields ↑others := by
  induction others generalizing fields with
  | nil =>
    cases fields with
    | nil => exact .zero
    | cons field rest =>
      have hkeys := keys field.1
      rw [lookup_cons, if_pos rfl] at hkeys
      exact absurd hkeys (by simp [lookup])
  | cons other rest ih =>
    obtain ⟨name, value⟩ := other
    have hfound : lookup ((name, value) :: rest) name = some value := by rw [lookup_cons, if_pos rfl]
    obtain ⟨held, hheld⟩ : ∃ held, lookup fields name = some held := by
      rw [← Option.isSome_iff_exists, keys name, hfound]
      rfl
    -- The field of this key may stand anywhere in the first list; it is moved to its front.
    obtain ⟨before, after, hfields⟩ := List.append_of_mem (mem_of_lookup hheld)
    have hperm : fields.Perm ((name, held) :: (before ++ after)) := hfields ▸ List.perm_middle
    have hsame := lookup_eq_of_perm unique hperm
    have hunique := (hperm.map Prod.fst).nodup_iff.mp unique
    rw [List.map_cons, List.nodup_cons] at hunique others_unique
    have hrest := ih hunique.2 others_unique.2 (fun key => ?_) fun key x y hx hy => ?_
    · rw [Multiset.coe_eq_coe.mpr hperm]
      exact .cons ⟨rfl, values name held value hheld hfound⟩ hrest
    · have hkeys := keys key
      rw [hsame, lookup_cons, lookup_cons] at hkeys
      by_cases hkey : name = key
      · rw [← hkey, lookup_eq_none_of_not_mem hunique.1, lookup_eq_none_of_not_mem others_unique.1]
        rfl
      · rwa [if_neg hkey, if_neg hkey] at hkeys
    · by_cases hkey : name = key
      · rw [← hkey, lookup_eq_none_of_not_mem hunique.1] at hx
        exact absurd hx (by simp)
      · refine values key x y ?_ ?_
        · rw [hsame, lookup_cons, if_neg hkey, hx]
        · rw [lookup_cons, if_neg hkey, hy]

theorem rel_lookup {α β : Type} {r : α → β → Prop} {fields : List (String × α)}
    {others : List (String × β)} (h : List.Forall₂ (FieldsRelated r) fields others) (key : String) :
    Option.Rel r (lookup fields key) (lookup others key) := by
  induction h with
  | nil => exact .none
  | @cons field other _ _ hfield _ ih =>
    rw [lookup_cons, lookup_cons, hfield.1]
    split
    · exact .some hfield.2
    · exact ih

namespace SameData

theorem of_forall₂ {items others : List Json} (h : List.Forall₂ SameData items others) :
    SameData (.array items) (.array others) := by
  obtain ⟨hlength, hitems⟩ := List.forall₂_iff_get.mp h
  refine .array hlength fun index x y hx hy => ?_
  obtain ⟨hindex, rfl⟩ := List.getElem?_eq_some_iff.mp hx
  obtain ⟨hindex', rfl⟩ := List.getElem?_eq_some_iff.mp hy
  exact hitems index hindex hindex'

/-- Moving the fields of an object about keeps its data, and so does what keeps the data of a field. -/
theorem of_perm {fields middle others : List (String × Json)} (perm : middle.Perm others)
    (related : List.Forall₂ (FieldsRelated SameData) fields middle)
    (unique : (middle.map Prod.fst).Nodup) : SameData (.object fields) (.object others) := by
  have hrel : ∀ key, Option.Rel SameData (lookup fields key) (lookup others key) := fun key =>
    lookup_eq_of_perm unique perm key ▸ rel_lookup related key
  refine .object (fun key => isSome_eq_of_rel (hrel key)) fun key x y hx hy => ?_
  have hvalues := hrel key
  rw [hx, hy] at hvalues
  cases hvalues with
  | some hsame => exact hsame

end SameData

/-! ## Leaving fields out -/

mutual
/-- The value without the fields of some names, at any depth. -/
def without (dropped : String → Bool) : Json → Json
  | array items => array (itemsWithout dropped items)
  | object fields => object (fieldsWithout dropped fields)
  | value => value
termination_by structural value => value

/-- The items without the fields of some names. -/
def itemsWithout (dropped : String → Bool) : List Json → List Json
  | [] => []
  | item :: rest => without dropped item :: itemsWithout dropped rest
termination_by structural items => items

/-- The fields without those of some names, themselves included. -/
def fieldsWithout (dropped : String → Bool) : List (String × Json) → List (String × Json)
  | [] => []
  | (key, value) :: rest =>
    if dropped key then fieldsWithout dropped rest
    else (key, without dropped value) :: fieldsWithout dropped rest
termination_by structural fields => fields
end

variable {dropped : String → Bool}

theorem itemsWithout_eq_map (items : List Json) :
    itemsWithout dropped items = items.map (without dropped) := by
  induction items with
  | nil => rfl
  | cons item rest ih => rw [itemsWithout, ih, List.map_cons]

/-- A key that is left out finds nothing, and any other one what is left of its value. -/
theorem lookup_fieldsWithout (fields : List (String × Json)) (key : String) :
    lookup (fieldsWithout dropped fields) key =
      if dropped key then none else (lookup fields key).map (without dropped) := by
  induction fields with
  | nil => simp [fieldsWithout, lookup]
  | cons field rest ih =>
    obtain ⟨name, value⟩ := field
    rw [fieldsWithout]
    by_cases hname : dropped name = true
    · rw [if_pos hname, ih]
      by_cases hkey : dropped key = true
      · rw [if_pos hkey, if_pos hkey]
      · have hne : name ≠ key := fun hsame => hkey (hsame ▸ hname)
        rw [if_neg hkey, if_neg hkey, lookup_cons, if_neg hne]
    · rw [if_neg hname, lookup_cons, ih, lookup_cons]
      by_cases hsame : name = key
      · have hkey : ¬ dropped key = true := hsame ▸ hname
        rw [if_pos hsame, if_pos hsame, if_neg hkey, Option.map_some]
      · rw [if_neg hsame, if_neg hsame]

/-- Two values hold the same data in what is left of them. -/
def SameDataWithout (dropped : String → Bool) (value other : Json) : Prop :=
  SameData (value.without dropped) (other.without dropped)

namespace SameDataWithout

theorem array {items others : List Json}
    (h : List.Forall₂ (SameDataWithout dropped) items others) :
    SameDataWithout dropped (.array items) (.array others) := by
  obtain ⟨hlength, hvalues⟩ := List.forall₂_iff_get.mp h
  rw [SameDataWithout, without, without, itemsWithout_eq_map, itemsWithout_eq_map]
  refine .array (by rw [List.length_map, List.length_map, hlength]) fun index x y hx hy => ?_
  rw [List.getElem?_map, Option.map_eq_some_iff] at hx hy
  obtain ⟨item, hitem, rfl⟩ := hx
  obtain ⟨other, hother, rfl⟩ := hy
  obtain ⟨hindex, rfl⟩ := List.getElem?_eq_some_iff.mp hitem
  obtain ⟨hindex', rfl⟩ := List.getElem?_eq_some_iff.mp hother
  exact hvalues index hindex hindex'

/-- Objects hold the same data if the keys that are not left out find the same data. -/
theorem object {fields others : List (String × Json)}
    (h : ∀ key, dropped key = false →
      Option.Rel (SameDataWithout dropped) (lookup fields key) (lookup others key)) :
    SameDataWithout dropped (.object fields) (.object others) := by
  rw [SameDataWithout, without, without]
  refine .object (fun key => ?_) fun key x y hx hy => ?_
  · rw [lookup_fieldsWithout, lookup_fieldsWithout]
    cases hkey : dropped key with
    | true => rfl
    | false =>
      rw [if_neg Bool.false_ne_true, if_neg Bool.false_ne_true, Option.isSome_map, Option.isSome_map]
      exact isSome_eq_of_rel (h key hkey)
  · rw [lookup_fieldsWithout] at hx hy
    cases hkey : dropped key with
    | true => simp [hkey] at hx
    | false =>
      rw [hkey, if_neg Bool.false_ne_true, Option.map_eq_some_iff] at hx hy
      obtain ⟨value, hvalue, rfl⟩ := hx
      obtain ⟨other, hother, rfl⟩ := hy
      have hrel := h key hkey
      rw [hvalue, hother] at hrel
      cases hrel with
      | some hsame => exact hsame

/-- A key that is not left out is in both objects or in neither. -/
theorem lookup_isSome {fields others : List (String × Json)}
    (h : SameDataWithout dropped (.object fields) (.object others)) {key : String}
    (hkey : dropped key = false) : (lookup fields key).isSome = (lookup others key).isSome := by
  rw [SameDataWithout, without, without] at h
  cases h with
  | object keys _ =>
    have hsame := keys key
    rwa [lookup_fieldsWithout, lookup_fieldsWithout, hkey, if_neg Bool.false_ne_true,
      if_neg Bool.false_ne_true, Option.isSome_map, Option.isSome_map] at hsame

end SameDataWithout

end EditorBridge.Json
