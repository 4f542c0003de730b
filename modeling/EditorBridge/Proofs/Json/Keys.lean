import EditorBridge.Json.Parser
import Mathlib.Data.List.Nodup
/-!
Keys of JSON objects.  `lookup` and `put` are described by the list of keys; a value has unique keys
if none of the objects in it repeats a key.  What a text is parsed into always has them.
-/

set_option autoImplicit false

namespace EditorBridge.Json

section Fields

variable {α : Type}

/-! ## Looking up -/

theorem lookup_cons (name : String) (value : α) (fields : List (String × α)) (key : String) :
    lookup ((name, value) :: fields) key =
      if name = key then some value else lookup fields key := by
  by_cases h : name = key
  · simp [lookup, h]
  · simp [lookup, h]

theorem lookup_append (first second : List (String × α)) (key : String) :
    lookup (first ++ second) key = (lookup first key).or (lookup second key) := by
  simp only [lookup, List.find?_append]
  cases first.find? fun field => field.1 == key <;> rfl

theorem lookup_eq_none {fields : List (String × α)} {key : String}
    (h : ∀ field ∈ fields, field.1 ≠ key) : lookup fields key = none := by
  simp only [lookup, Option.map_eq_none_iff, List.find?_eq_none, beq_iff_eq]
  exact h

theorem lookup_filter {fields : List (String × α)} (kept : String → Bool) (key : String) :
    lookup (fields.filter fun field => kept field.1) key =
      if kept key then lookup fields key else none := by
  induction fields with
  | nil => simp [lookup]
  | cons field rest ih =>
    obtain ⟨name, value⟩ := field
    rw [List.filter_cons, lookup_cons]
    by_cases hname : kept name = true
    · rw [if_pos hname, lookup_cons, ih]
      by_cases hsame : name = key
      · rw [if_pos hsame, if_pos hsame, if_pos (hsame ▸ hname)]
      · rw [if_neg hsame, if_neg hsame]
    · rw [if_neg hname, ih]
      by_cases hkey : kept key = true
      · have hne : name ≠ key := fun hsame => hname (hsame ▸ hkey)
        rw [if_pos hkey, if_pos hkey, if_neg hne]
      · rw [if_neg hkey, if_neg hkey]

theorem mem_of_lookup {fields : List (String × α)} {key : String} {value : α}
    (h : lookup fields key = some value) : (key, value) ∈ fields := by
  simp only [lookup, Option.map_eq_some_iff] at h
  obtain ⟨⟨name, held⟩, hfind, rfl⟩ := h
  have hname : name = key := by simpa using List.find?_some hfind
  rw [← hname]
  exact List.mem_of_find?_eq_some hfind

/-- Where no key is repeated, every field is found under its key. -/
theorem lookup_eq_some_iff {fields : List (String × α)} (unique : (fields.map Prod.fst).Nodup)
    {key : String} {value : α} : lookup fields key = some value ↔ (key, value) ∈ fields := by
  refine ⟨mem_of_lookup, fun hmem => ?_⟩
  induction fields with
  | nil => exact absurd hmem List.not_mem_nil
  | cons field rest ih =>
    obtain ⟨name, held⟩ := field
    rw [List.map_cons, List.nodup_cons] at unique
    rw [lookup_cons]
    rcases List.mem_cons.mp hmem with heq | hrest
    · cases heq
      rw [if_pos rfl]
    · have hname : name ≠ key := by
        rintro rfl
        exact unique.1 (List.mem_map.mpr ⟨_, hrest, rfl⟩)
      rw [if_neg hname]
      exact ih unique.2 hrest

theorem lookup_eq_none_of_not_mem {fields : List (String × α)} {key : String}
    (h : key ∉ fields.map Prod.fst) : lookup fields key = none :=
  lookup_eq_none fun field hmem heq => h (List.mem_map.mpr ⟨field, hmem, heq⟩)

/-- Where no key is repeated, looking up does not depend on the order of fields. -/
theorem lookup_eq_of_perm {fields others : List (String × α)} (unique : (fields.map Prod.fst).Nodup)
    (h : fields.Perm others) (key : String) : lookup fields key = lookup others key := by
  apply Option.ext
  intro value
  rw [lookup_eq_some_iff unique, lookup_eq_some_iff ((h.map Prod.fst).nodup_iff.mp unique),
    h.mem_iff]

/-! ## Setting the value of a key -/

theorem put_of_fresh {fields : List (String × α)} {key : String} (value : α)
    (fresh : key ∉ fields.map Prod.fst) : put fields key value = fields ++ [(key, value)] := by
  induction fields with
  | nil => rfl
  | cons field rest ih =>
    simp only [List.map_cons, List.mem_cons, not_or] at fresh
    have hname : ¬ (field.1 == key) = true := by simpa using Ne.symm fresh.1
    rw [put, if_neg hname, ih fresh.2, List.cons_append]

theorem keys_put_of_mem {fields : List (String × α)} {key : String} (value : α)
    (present : key ∈ fields.map Prod.fst) :
    (put fields key value).map Prod.fst = fields.map Prod.fst := by
  induction fields with
  | nil => exact absurd present List.not_mem_nil
  | cons field rest ih =>
    by_cases hname : field.1 = key
    · rw [put, if_pos (by simpa using hname), List.map_cons, List.map_cons, hname]
    · have hrest : key ∈ rest.map Prod.fst := by
        rcases List.mem_cons.mp present with heq | hrest
        · exact absurd heq.symm hname
        · exact hrest
      rw [put, if_neg (by simpa using hname), List.map_cons, List.map_cons, ih hrest]

theorem nodup_keys_put {fields : List (String × α)} (key : String) (value : α)
    (unique : (fields.map Prod.fst).Nodup) : ((put fields key value).map Prod.fst).Nodup := by
  by_cases present : key ∈ fields.map Prod.fst
  · rw [keys_put_of_mem value present]
    exact unique
  · rw [put_of_fresh value present, List.map_append]
    exact List.nodup_append'.mpr ⟨unique, List.nodup_singleton key, by simpa using present⟩

theorem mem_put {fields : List (String × α)} {key : String} {value : α} {field : String × α}
    (h : field ∈ put fields key value) : field = (key, value) ∨ field ∈ fields := by
  induction fields with
  | nil => exact Or.inl (List.mem_singleton.mp h)
  | cons head rest ih =>
    rw [put] at h
    split at h
    · rcases List.mem_cons.mp h with heq | hrest
      · exact Or.inl heq
      · exact Or.inr (List.mem_cons_of_mem _ hrest)
    · rcases List.mem_cons.mp h with heq | hrest
      · exact Or.inr (heq ▸ List.mem_cons_self)
      · exact (ih hrest).imp id (List.mem_cons_of_mem _)

end Fields

/-! ## Unique keys -/

mutual
/-- Whether no object in a value repeats a key, at any depth. -/
def hasUniqueKeys : Json → Bool
  | array items => itemsHaveUniqueKeys items
  | object fields => decide (fields.map Prod.fst).Nodup && fieldsHaveUniqueKeys fields
  | _ => true
termination_by structural value => value

def itemsHaveUniqueKeys : List Json → Bool
  | [] => true
  | item :: rest => hasUniqueKeys item && itemsHaveUniqueKeys rest
termination_by structural items => items

def fieldsHaveUniqueKeys : List (String × Json) → Bool
  | [] => true
  | (_, value) :: rest => hasUniqueKeys value && fieldsHaveUniqueKeys rest
termination_by structural fields => fields
end

theorem itemsHaveUniqueKeys_iff (items : List Json) :
    itemsHaveUniqueKeys items = true ↔ ∀ item ∈ items, item.hasUniqueKeys = true := by
  induction items with
  | nil => simp [itemsHaveUniqueKeys]
  | cons item rest ih => simp [itemsHaveUniqueKeys, ih]

theorem fieldsHaveUniqueKeys_iff (fields : List (String × Json)) :
    fieldsHaveUniqueKeys fields = true ↔ ∀ field ∈ fields, field.2.hasUniqueKeys = true := by
  induction fields with
  | nil => simp [fieldsHaveUniqueKeys]
  | cons field rest ih => simp [fieldsHaveUniqueKeys, ih]

theorem hasUniqueKeys_array (items : List Json) :
    (array items).hasUniqueKeys = true ↔ ∀ item ∈ items, item.hasUniqueKeys = true := by
  rw [hasUniqueKeys, itemsHaveUniqueKeys_iff]

theorem hasUniqueKeys_object (fields : List (String × Json)) :
    (object fields).hasUniqueKeys = true ↔
      (fields.map Prod.fst).Nodup ∧ ∀ field ∈ fields, field.2.hasUniqueKeys = true := by
  rw [hasUniqueKeys, Bool.and_eq_true, decide_eq_true_iff, fieldsHaveUniqueKeys_iff]

/-! ## Merging repeated keys -/

mutual
theorem merged_hasUniqueKeys : ∀ value : Json, value.merged.hasUniqueKeys = true
  | null | bool _ | number _ | string _ => rfl
  | array items => (hasUniqueKeys_array _).mpr (mergedItems_haveUniqueKeys items)
  | object fields => (hasUniqueKeys_object _).mpr
      (mergedFields_haveUniqueKeys fields [] ⟨List.nodup_nil, fun _ h => absurd h List.not_mem_nil⟩)
termination_by structural value => value

theorem mergedItems_haveUniqueKeys :
    ∀ items : List Json, ∀ item ∈ mergedItems items, item.hasUniqueKeys = true
  | [], item, h => absurd h List.not_mem_nil
  | first :: rest, item, h => by
    rcases List.mem_cons.mp h with rfl | hrest
    · exact merged_hasUniqueKeys first
    · exact mergedItems_haveUniqueKeys rest item hrest
termination_by structural items => items

theorem mergedFields_haveUniqueKeys : ∀ (fields collected : List (String × Json)),
    ((collected.map Prod.fst).Nodup ∧ ∀ field ∈ collected, field.2.hasUniqueKeys = true) →
    ((mergedFields collected fields).map Prod.fst).Nodup ∧
      ∀ field ∈ mergedFields collected fields, field.2.hasUniqueKeys = true
  | [], _, h => h
  | (key, value) :: rest, collected, ⟨unique, hvalues⟩ => by
    have hvalue := merged_hasUniqueKeys value
    refine mergedFields_haveUniqueKeys rest (put collected key value.merged)
      ⟨nodup_keys_put key _ unique, fun field hfield => ?_⟩
    rcases mem_put hfield with rfl | hfield
    · exact hvalue
    · exact hvalues field hfield
termination_by structural fields => fields
end

/-- What a text is parsed into repeats no key. -/
theorem parse_hasUniqueKeys {text : String} {json : Json} (h : parse text = .ok json) :
    json.hasUniqueKeys = true := by
  unfold parse at h
  cases hread : readAll (Reader.value maxDepth) text with
  | error fault => simp [hread, bind, Except.bind] at h
  | ok value =>
    simp only [hread, bind, Except.bind, pure, Except.pure, Except.ok.injEq] at h
    rw [← h]
    exact merged_hasUniqueKeys value

end EditorBridge.Json
