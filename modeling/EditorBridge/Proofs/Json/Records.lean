import EditorBridge.Json.Decoder
import EditorBridge.Proofs.Json.Keys
/-!
Records read from objects.  Where neither an object nor a record repeats a name, every field of the
record is read on its own, from what the object holds under its name (`Decoder.decode_record_iff`): the
order of fields does not count, and fields of other names do not either.
-/

set_option autoImplicit false

namespace EditorBridge.Json

/-! ## Computations that can fail -/

section Results

variable {ε α β : Type}

theorem bind_eq_ok_iff {x : Except ε α} {f : α → Except ε β} {result : β} :
    x.bind f = .ok result ↔ ∃ value, x = .ok value ∧ f value = .ok result := by
  cases x with
  | error cause => exact ⟨nofun, fun ⟨_, h, _⟩ => nomatch h⟩
  | ok value => exact ⟨fun h => ⟨value, rfl, h⟩, fun ⟨_, hvalue, h⟩ => by cases hvalue; exact h⟩

theorem map_eq_ok_iff {x : Except ε α} {f : α → β} {result : β} :
    x.map f = .ok result ↔ ∃ value, x = .ok value ∧ f value = result := by
  cases x with
  | error cause => exact ⟨nofun, fun ⟨_, h, _⟩ => nomatch h⟩
  | ok value =>
    exact ⟨fun h => ⟨value, rfl, Except.ok.inj h⟩, fun ⟨_, hvalue, h⟩ => by cases hvalue; exact h ▸ rfl⟩

end Results

/-! ## What the fields of a record read -/

variable {α : Type} {types : List Type}

/-- The value of a field in an object: what its decoder makes of what is there under its name, or what
stands for it if nothing is. -/
def Field.Reads (field : Field α) (given : List (String × Json)) (value : α) : Prop :=
  match lookup given field.name with
  | none => field.absence.inObject? = some value
  | some json => field.decoder.decode json = .ok value

theorem Field.reads_of_lookup {field : Field α} {given : List (String × Json)} {json : Json}
    {value : α} (hlookup : lookup given field.name = some json)
    (h : field.decoder.decode json = .ok value) : field.Reads given value := by
  rw [Field.Reads, hlookup]
  exact h

/-- What a field finds in an object is what fills its slot. -/
def Field.Finds (field : Field α) (given : List (String × Json)) (slot : Option α) : Prop :=
  match lookup given field.name with
  | none => slot = none
  | some json => ∃ value, field.decoder.decode json = .ok value ∧ slot = some value

theorem Field.reads_iff (field : Field α) (given : List (String × Json)) (value : α) :
    field.Reads given value ↔
      ∃ slot, field.Finds given slot ∧ (slot.orElse fun _ => field.absence.inObject?) = some value := by
  unfold Field.Reads Field.Finds
  cases lookup given field.name with
  | none => exact ⟨fun h => ⟨none, rfl, h⟩, fun ⟨_, hslot, h⟩ => by rwa [hslot] at h⟩
  | some json =>
    refine ⟨fun h => ⟨some value, ⟨value, h, rfl⟩, rfl⟩, ?_⟩
    rintro ⟨_, ⟨found, hfound, rfl⟩, h⟩
    rwa [← Option.some.inj h]

namespace Row

/-- The values of all fields of a record in an object. -/
def Reads : {types : List Type} → Row Field types → List (String × Json) → Row Id types → Prop
  | [], _, _, _ => True
  | _ :: _, (field, fields), given, (value, values) =>
    field.Reads given value ∧ fields.Reads given values

theorem isFilled_of_not_mem {key : String} : ∀ {types : List Type} (fields : Row Field types)
    (slots : Row Option types), key ∉ fields.names → fields.isFilled slots key = false
  | [], _, _, _ => rfl
  | _ :: _, (field, fields), (slot, slots), h => by
    rw [names, List.mem_cons, not_or] at h
    rw [isFilled, if_neg (by simpa using Ne.symm h.1)]
    exact isFilled_of_not_mem fields slots h.2

theorem fill_of_not_mem {m : Type → Type} [Monad m] [LawfulMonad m]
    (run : {α : Type} → Decoder α → m α) {key : String} :
    ∀ {types : List Type} (fields : Row Field types) (slots : Row Option types),
    key ∉ fields.names → fields.fill run slots key = pure slots
  | [], _, _, _ => rfl
  | _ :: _, (field, fields), (slot, slots), h => by
    rw [names, List.mem_cons, not_or] at h
    rw [fill, if_neg (by simpa using Ne.symm h.1), fill_of_not_mem run fields slots h.2, pure_bind]

end Row

namespace Decoder

theorem decode_option_of_ne_null {inner : Decoder α} {json : Json} {value : α} (hjson : json ≠ .null)
    (h : inner.decode json = .ok value) : (option inner).decode json = .ok (some value) := by
  have hinner : (option inner).decode json = some <$> inner.decode json := by
    cases json with
    | null => exact absurd rfl hjson
    | _ => rfl
  rw [hinner, h]
  rfl

/-! ## The fields of an object -/

theorem recordFields_cons (fields : Row Field types) (key : String) (value : Json)
    (given : List (String × Json)) (slots : Row Option types) :
    recordFields fields ((key, value) :: given) slots =
      if fields.isFilled slots key then .error (.duplicateField key)
      else (fields.fill (fun decoder => decoder.decode value) slots key).bind
        (recordFields fields given) := rfl

theorem recordFields_cons_of_not_mem (fields : Row Field types) {key : String} (value : Json)
    (given : List (String × Json)) (slots : Row Option types) (h : key ∉ fields.names) :
    recordFields fields ((key, value) :: given) slots = recordFields fields given slots := by
  rw [recordFields_cons, fields.isFilled_of_not_mem slots h, if_neg Bool.false_ne_true,
    fields.fill_of_not_mem _ slots h]
  rfl

/-- A name that is not that of the first field concerns the other fields only. -/
theorem recordFields_cons_of_ne (field : Field α) (fields : Row Field types) {key : String}
    (value : Json) (given : List (String × Json)) (slot : Option α) (slots : Row Option types)
    (h : field.name ≠ key) :
    @recordFields (α :: types) (field, fields) ((key, value) :: given) (slot, slots) =
      if fields.isFilled slots key then .error (.duplicateField key)
      else (fields.fill (fun decoder => decoder.decode value) slots key).bind fun slots =>
        @recordFields (α :: types) (field, fields) given (slot, slots) := by
  have hname : ¬ (field.name == key) = true := by simpa using h
  refine (@recordFields_cons (α :: types) (field, fields) key value given (slot, slots)).trans ?_
  rw [Row.isFilled, if_neg hname, Row.fill, if_neg hname]
  cases fields.fill (fun decoder => decoder.decode value) slots key <;> rfl

theorem recordFields_cons_self (field : Field α) (fields : Row Field types) (value : Json)
    (given : List (String × Json)) (slots : Row Option types) :
    @recordFields (α :: types) (field, fields) ((field.name, value) :: given) (none, slots) =
      (field.decoder.decode value).bind fun result =>
        @recordFields (α :: types) (field, fields) given (some result, slots) := by
  refine (@recordFields_cons (α :: types) (field, fields) field.name value given
    (none, slots)).trans ?_
  rw [Row.isFilled, if_pos (beq_self_eq_true _), Option.isSome_none, if_neg Bool.false_ne_true,
    Row.fill, if_pos (beq_self_eq_true _)]
  cases field.decoder.decode value <;> rfl

/-- The slot of a field stays as it is while only other names come. -/
theorem recordFields_of_absent (field : Field α) (fields : Row Field types) (slot : Option α) :
    ∀ (given : List (String × Json)) (slots : Row Option types), field.name ∉ given.map Prod.fst →
    @recordFields (α :: types) (field, fields) given (slot, slots) =
      (recordFields fields given slots).map fun slots => (slot, slots)
  | [], _, _ => rfl
  | (key, value) :: given, slots, h => by
    rw [List.map_cons, List.mem_cons, not_or] at h
    rw [recordFields_cons_of_ne field fields value given slot slots h.1, recordFields_cons]
    split
    · rfl
    · cases fields.fill (fun decoder => decoder.decode value) slots key with
      | error _ => rfl
      | ok slots => exact recordFields_of_absent field fields slot given slots h.2

/-- The first field of a record and its other fields are read independently of each other. -/
theorem recordFields_eq_ok_iff (field : Field α) (fields : Row Field types)
    (hname : field.name ∉ fields.names) (slot : Option α) (filled : Row Option types) :
    ∀ (given : List (String × Json)) (slots : Row Option types), (given.map Prod.fst).Nodup →
    (@recordFields (α :: types) (field, fields) given (none, slots) = .ok (slot, filled) ↔
      field.Finds given slot ∧ recordFields fields given slots = .ok filled)
  | [], slots, _ => by
    change Except.ok (none, slots) = Except.ok (slot, filled) ↔
      slot = none ∧ Except.ok slots = Except.ok filled
    rw [Except.ok.injEq, Except.ok.injEq, Prod.mk.injEq, @eq_comm _ none]
  | (key, value) :: given, slots, unique => by
    rw [List.map_cons, List.nodup_cons] at unique
    -- Each key concerns the first field or the others, and leaves the slots of the other side alone.
    by_cases hkey : field.name = key
    · subst hkey
      rw [recordFields_cons_of_not_mem fields value given slots hname, recordFields_cons_self,
        Field.Finds, lookup_cons, if_pos rfl]
      -- No other value comes for this field, so the slot keeps what was found here.
      have hrest : ∀ result, @recordFields (α :: types) (field, fields) given (some result, slots) =
          .ok (slot, filled) ↔ recordFields fields given slots = .ok filled ∧ slot = some result := by
        intro result
        have habsent := recordFields_of_absent field fields (some result) given slots unique.1
        refine ((Eq.congr_left habsent).trans map_eq_ok_iff).trans
          ⟨fun ⟨others, hothers, h⟩ => ?_, fun ⟨hothers, hslot⟩ => ⟨filled, hothers, hslot ▸ rfl⟩⟩
        cases h
        exact ⟨hothers, rfl⟩
      refine bind_eq_ok_iff.trans ⟨fun ⟨result, hresult, h⟩ => ?_, fun ⟨hfinds, hothers⟩ => ?_⟩
      · obtain ⟨hothers, hslot⟩ := (hrest result).mp h
        exact ⟨⟨result, hresult, hslot⟩, hothers⟩
      · obtain ⟨result, hresult, hslot⟩ := hfinds
        exact ⟨result, hresult, (hrest result).mpr ⟨hothers, hslot⟩⟩
    · have hfinds : field.Finds ((key, value) :: given) slot ↔ field.Finds given slot := by
        rw [Field.Finds, Field.Finds, lookup_cons, if_neg (Ne.symm hkey)]
      rw [hfinds, recordFields_cons_of_ne field fields value given none slots hkey, recordFields_cons]
      split
      · exact ⟨nofun, fun ⟨_, h⟩ => nomatch h⟩
      · have ih := fun slots =>
          recordFields_eq_ok_iff field fields hname slot filled given slots unique.2
        rw [bind_eq_ok_iff]
        refine bind_eq_ok_iff.trans ⟨fun ⟨slots, hslots, h⟩ => ?_, fun ⟨hslot, slots, hslots, h⟩ => ?_⟩
        · exact ⟨((ih slots).mp h).1, slots, hslots, ((ih slots).mp h).2⟩
        · exact ⟨slots, hslots, (ih slots).mpr ⟨hslot, h⟩⟩

/-! ## Records -/

theorem complete_eq_ok_iff (field : Field α) (fields : Row Field types) (slot : Option α)
    (slots : Row Option types) (value : α) (values : Row Id types) :
    @Row.complete (α :: types) (field, fields) (slot, slots) = .ok (value, values) ↔
      (slot.orElse fun _ => field.absence.inObject?) = some value ∧
        fields.complete slots = .ok values := by
  rw [Row.complete]
  cases slot.orElse fun _ => field.absence.inObject? with
  | none => exact ⟨nofun, fun ⟨h, _⟩ => nomatch h⟩
  | some found =>
    refine bind_eq_ok_iff.trans ⟨fun ⟨others, hothers, h⟩ => ?_, fun ⟨hfound, hothers⟩ => ?_⟩
    · cases h
      exact ⟨rfl, hothers⟩
    · cases hfound
      exact ⟨values, hothers, rfl⟩

theorem recordFields_empty : ∀ (fields : Row Field []) (given : List (String × Json)),
    recordFields fields given (Row.empty []) = .ok ()
  | _, [] => rfl
  | fields, (_, value) :: given =>
    (recordFields_cons_of_not_mem fields value given _ List.not_mem_nil).trans
      (recordFields_empty fields given)

theorem reads_iff_complete (given : List (String × Json)) (unique : (given.map Prod.fst).Nodup) :
    ∀ {types : List Type} (fields : Row Field types), fields.names.Nodup → ∀ values : Row Id types,
    (fields.Reads given values ↔ ∃ slots, recordFields fields given (Row.empty types) = .ok slots ∧
      fields.complete slots = .ok values)
  | [], fields, _, _ => ⟨fun _ => ⟨(), recordFields_empty fields given, rfl⟩, fun _ => trivial⟩
  | _ :: types, (field, fields), distinct, (value, values) => by
    rw [Row.names, List.nodup_cons] at distinct
    have ih := reads_iff_complete given unique fields distinct.2 values
    have hread := fun slot slots =>
      recordFields_eq_ok_iff field fields distinct.1 slot slots given (Row.empty types) unique
    have hcomplete := fun slot slots => complete_eq_ok_iff field fields slot slots value values
    rw [Row.Reads, field.reads_iff, ih]
    constructor
    · rintro ⟨⟨slot, hslot, hvalue⟩, slots, hslots, hvalues⟩
      exact ⟨(slot, slots), (hread slot slots).mpr ⟨hslot, hslots⟩,
        (hcomplete slot slots).mpr ⟨hvalue, hvalues⟩⟩
    · rintro ⟨⟨slot, slots⟩, h, hvalues⟩
      exact ⟨⟨slot, ((hread slot slots).mp h).1, ((hcomplete slot slots).mp hvalues).1⟩,
        slots, ((hread slot slots).mp h).2, ((hcomplete slot slots).mp hvalues).2⟩

/-- A record is read from an object field by field, each from what stands under its name. -/
theorem decode_record_iff {name : String} {fields : Row Field types} {build : Row Id types → α}
    (distinct : fields.names.Nodup) {given : List (String × Json)}
    (unique : (given.map Prod.fst).Nodup) (result : α) :
    (record types name fields build).decode (.object given) = .ok result ↔
      ∃ values, fields.Reads given values ∧ build values = result := by
  have hdecode : (record types name fields build).decode (.object given) =
      (recordFields fields given (Row.empty types)).bind fun slots =>
        (fields.complete slots).bind fun values => .ok (build values) := rfl
  simp only [hdecode, bind_eq_ok_iff, reads_iff_complete given unique fields distinct,
    Except.ok.injEq]
  exact ⟨fun ⟨slots, hslots, values, hvalues, h⟩ => ⟨values, ⟨slots, hslots, hvalues⟩, h⟩,
    fun ⟨values, ⟨slots, hslots, hvalues⟩, h⟩ => ⟨slots, hslots, values, hvalues, h⟩⟩

/-! ## Variants -/

theorem splitTag_of_not_mem (key : String) (variants : List (Variant α)) (found : Option (Variant α)) :
    ∀ {given : List (String × Json)}, key ∉ given.map Prod.fst →
    splitTag key variants given found = .ok (found, given)
  | [], _ => rfl
  | (name, value) :: given, h => by
    rw [List.map_cons, List.mem_cons, not_or] at h
    rw [splitTag, if_neg (by simpa using Ne.symm h.1), splitTag_of_not_mem key variants found h.2]
    rfl

theorem decode_tagged (name key : String) (variants : List (Variant α)) :
    (tagged name key variants).decode = decodeTagged name key variants := rfl

theorem decodeTagged_cons {name key kind : String} {variants : List (Variant α)} {variant : Variant α}
    (hvariant : (variants.find? fun variant => variant.name == kind) = some variant)
    {given : List (String × Json)} (hkey : key ∉ given.map Prod.fst) :
    decodeTagged name key variants (.object ((key, .string kind) :: given)) =
      variant.decode (.object given) := by
  have hselect : selectByIndex variants (.string kind) = .ok variant := by
    rw [selectByIndex, select, hvariant]
    exact nofun
  rw [decodeTagged, splitTag, if_pos (beq_self_eq_true _), Option.isSome_none,
    if_neg Bool.false_ne_true, hselect]
  change ((splitTag key variants given (some variant)).bind _) = _
  rw [splitTag_of_not_mem key variants _ hkey]
  rfl

/-- A value is read from what stands after its tag, by the record of this name. -/
theorem decodeTagged_record {name key kind title : String} {variants : List (Variant α)}
    {fields : Row Field types} {build : Row Id types → α} {given : List (String × Json)}
    {values : Row Id types}
    (hvariant : (variants.find? fun variant => variant.name == kind) =
      some (.record kind title types fields build))
    (hnames : fields.names = given.map Prod.fst) (hkeys : (key :: given.map Prod.fst).Nodup)
    (hread : fields.Reads given values) :
    decodeTagged name key variants (.object ((key, .string kind) :: given)) =
      .ok (build values) := by
  obtain ⟨hkey, unique⟩ := List.nodup_cons.mp hkeys
  rw [decodeTagged_cons hvariant hkey]
  change (record types ("struct variant " ++ title) fields build).decode (.object given) = _
  exact (decode_record_iff (hnames ▸ unique) unique _).mpr ⟨values, hread, rfl⟩

end Decoder

end EditorBridge.Json
