import EditorBridge.Proofs.Json.Records
import EditorBridge.Settings
/-!
Settings and conventions.  Settings take their fields out of an object one after the other, conventions
are read as a record; both come to the same (`Settings.ofJson_agrees`).  What the settings have not taken
stays, in some order, so each field is read as if it were the first (`Settings.run_readField_bind_iff`),
and what is left at the end is what is reported.
-/

set_option autoImplicit false

namespace EditorBridge

open Json (Decoder Row bind_eq_ok_iff lookup)

/-! ## Conventions -/

namespace Conventions

/-- The values of all fields in declaration order. -/
def values (conventions : Conventions) : Row Id [String, String, Char, Char, Char] :=
  (conventions.typeField, conventions.refField, conventions.pathPrefix,
    conventions.segmentSeparator, conventions.indexMarker, ())

theorem decode_eq_ok_iff {given : List (String × Json)} (unique : (given.map Prod.fst).Nodup)
    (conventions : Conventions) :
    decoder.decode (.object given) = .ok conventions ↔ fields.Reads given conventions.values := by
  refine (Decoder.decode_record_iff (by decide) unique conventions).trans ⟨?_, fun h => ⟨_, h, rfl⟩⟩
  rintro ⟨⟨_, _, _, _, _, _⟩, h, rfl⟩
  exact h

end Conventions

namespace Settings

/-! ## Taking a field out -/

/-- Where the last item moves to the place of another one, all others stay. -/
theorem perm_set_dropLast {α : Type} (before after : List α) (item last : α)
    (hlast : (before ++ item :: after).getLast? = some last) :
    ((before ++ item :: after).dropLast.set before.length last).Perm (before ++ after) := by
  -- The item is the last one itself, and goes with it, or stands before it and is replaced.
  rcases List.eq_nil_or_concat' after with rfl | ⟨middle, final, rfl⟩
  · rw [List.dropLast_concat, List.set_eq_of_length_le (Nat.le_refl _), List.append_nil]
  · have hconcat : before ++ item :: (middle ++ [final]) = (before ++ item :: middle) ++ [final] := by
      rw [List.append_assoc, List.cons_append]
    rw [hconcat, List.getLast?_concat] at hlast
    rw [hconcat, List.dropLast_concat, List.set_append_right _ _ (Nat.le_refl _), Nat.sub_self,
      List.set_cons_zero, Option.some.inj hlast]
    exact (List.perm_append_singleton last middle).symm.append_left before

namespace Remaining

theorem findIdx?_of_not_mem {remaining : Remaining} {name : String}
    (h : name ∉ remaining.map Prod.fst) :
    remaining.findIdx? (fun field => field.1 == name) = none := by
  rw [List.findIdx?_eq_none_iff]
  intro field hfield
  exact beq_false_of_ne fun heq => h (List.mem_map.mpr ⟨field, hfield, heq⟩)

theorem filter_of_not_mem {remaining : Remaining} {name : String}
    (h : name ∉ remaining.map Prod.fst) :
    remaining.filter (fun field => decide (field.1 ≠ name)) = remaining := by
  rw [List.filter_eq_self]
  intro field hfield
  exact decide_eq_true fun heq => h (List.mem_map.mpr ⟨field, hfield, heq⟩)

theorem take_of_not_mem {remaining : Remaining} {name : String}
    (h : name ∉ remaining.map Prod.fst) : remaining.take name = (none, remaining) := by
  rw [take, findIdx?_of_not_mem h]

theorem take_append_cons {before : Remaining} (after : Remaining) {name : String} (value : Json)
    (h : name ∉ before.map Prod.fst) :
    ∃ rest, take (before ++ (name, value) :: after) name = (some value, rest) ∧
      rest.Perm (before ++ after) := by
  have hfind : (before ++ (name, value) :: after).findIdx? (fun field => field.1 == name) =
      some before.length := by
    simp [List.findIdx?_append, findIdx?_of_not_mem h, List.findIdx?_cons]
  obtain ⟨last, hlast⟩ : ∃ last, (before ++ (name, value) :: after).getLast? = some last :=
    Option.isSome_iff_exists.mp (by simp)
  refine ⟨_, ?_, perm_set_dropLast before after (name, value) last hlast⟩
  rw [take, hfind]
  simp only [hlast, List.getElem?_append_right (Nat.le_refl _), Nat.sub_self, List.getElem?_cons_zero]

/-- What is taken out is what is there under the name, and all fields of other names stay. -/
theorem take_spec {remaining : Remaining} (unique : (remaining.map Prod.fst).Nodup) (name : String) :
    (remaining.take name).1 = lookup remaining name ∧
      (remaining.take name).2.Perm (remaining.filter fun field => decide (field.1 ≠ name)) := by
  cases hlookup : lookup remaining name with
  | none =>
    have habsent : name ∉ remaining.map Prod.fst := by
      intro hmem
      obtain ⟨⟨_, value⟩, hfield, rfl⟩ := List.mem_map.mp hmem
      rw [(Json.lookup_eq_some_iff unique).mpr hfield] at hlookup
      cases hlookup
    rw [take_of_not_mem habsent, filter_of_not_mem habsent]
    exact ⟨rfl, .refl _⟩
  | some value =>
    obtain ⟨before, after, rfl⟩ := List.append_of_mem (Json.mem_of_lookup hlookup)
    have hothers : name ∉ (before ++ after).map Prod.fst := by
      have hperm := (List.perm_middle.map Prod.fst).nodup_iff.mp unique
      exact (List.nodup_cons.mp hperm).1
    have hkept := filter_of_not_mem hothers
    rw [List.map_append, List.mem_append, not_or] at hothers
    obtain ⟨rest, htake, hrest⟩ := take_append_cons after value hothers.1
    rw [htake, List.filter_append, List.filter_cons_of_neg (by simp), ← List.filter_append, hkept]
    exact ⟨rfl, hrest⟩

/-- What is left of an object once the fields of some names are taken, in any order. -/
def IsLeft (remaining fields : Remaining) (taken : List String) : Prop :=
  remaining.Perm (fields.filter fun field => decide (field.1 ∉ taken))

variable {remaining fields : Remaining} {taken : List String}

theorem isLeft_self (fields : Remaining) : fields.IsLeft fields [] := by
  rw [IsLeft, List.filter_eq_self.mpr fun _ _ => by simp]

theorem IsLeft.unique (h : remaining.IsLeft fields taken) (unique : (fields.map Prod.fst).Nodup) :
    (remaining.map Prod.fst).Nodup :=
  (h.map Prod.fst).nodup_iff.mpr (unique.sublist (List.filter_sublist.map Prod.fst))

theorem IsLeft.take (h : remaining.IsLeft fields taken) (unique : (fields.map Prod.fst).Nodup)
    (name : String) : (remaining.take name).2.IsLeft fields (name :: taken) := by
  refine ((take_spec (h.unique unique) name).2.trans (h.filter _)).trans ?_
  rw [List.filter_filter, List.filter_congr]
  intro field _
  simp

theorem IsLeft.lookup_eq (h : remaining.IsLeft fields taken) (unique : (fields.map Prod.fst).Nodup)
    {name : String} (fresh : name ∉ taken) : lookup remaining name = lookup fields name := by
  rw [Json.lookup_eq_of_perm (h.unique unique) h, Json.lookup_filter fun key => decide (key ∉ taken),
    if_pos (decide_eq_true fresh)]

end Remaining

/-! ## Reading fields one after the other -/

section Reading

variable {α β : Type} {remaining fields : Remaining} {taken : List String}

/-- The value of a field, given what was found under its name. -/
def decodeOr (name typeName : String) (decoder : Decoder α) (default : α) :
    Option Json → Except SettingsError α
  | none => .ok default
  | some value =>
    match decoder.decode value with
    | .ok result => .ok result
    | .error cause => .error (.invalidField name typeName value cause)

theorem decodeOr_eq_ok_iff {name typeName : String} {decoder : Decoder α} {default : α} (value : α) :
    decodeOr name typeName decoder default (lookup fields name) = .ok value ↔
      Json.Field.Reads ⟨name, decoder, .defaulted default⟩ fields value := by
  rw [Json.Field.Reads]
  cases lookup fields name with
  | none => simp [decodeOr, Json.Absence.inObject?]
  | some json =>
    dsimp only [decodeOr]
    cases decoder.decode json <;> simp

theorem run_readField (name typeName : String) (decoder : Decoder α) (default : α)
    (remaining : Remaining) : (readField name typeName decoder default).run remaining =
      (decodeOr name typeName decoder default (remaining.take name).1).map
        fun value => (value, (remaining.take name).2) := by
  have hrun : (readField name typeName decoder default).run remaining =
      ((match (remaining.take name).1 with
        | none => pure default
        | some value =>
          match decoder.decode value with
          | .ok result => pure result
          | .error cause => throw (.invalidField name typeName value cause) :
        Reading α).run (remaining.take name).2) := rfl
  rw [hrun]
  cases (remaining.take name).1 with
  | none => rfl
  | some value =>
    rw [decodeOr]
    dsimp only
    cases decoder.decode value <;> rfl

/-- A field is read from what the whole object holds under its name, and taken out. -/
theorem run_readField_bind_iff (unique : (fields.map Prod.fst).Nodup)
    (hleft : remaining.IsLeft fields taken) {name : String} (fresh : name ∉ taken) {typeName : String}
    {decoder : Decoder α} {default : α} {next : α → Reading β} {result : β × Remaining} :
    (readField name typeName decoder default >>= next).run remaining = .ok result ↔
      ∃ value, Json.Field.Reads ⟨name, decoder, .defaulted default⟩ fields value ∧
        (next value).run (remaining.take name).2 = .ok result := by
  have hfound : (remaining.take name).1 = lookup fields name := by
    rw [(Remaining.take_spec (hleft.unique unique) name).1, hleft.lookup_eq unique fresh]
  rw [StateT.run_bind, run_readField, hfound]
  refine bind_eq_ok_iff.trans ⟨?_, ?_⟩
  · rintro ⟨_, hmap, hnext⟩
    obtain ⟨value, hvalue, rfl⟩ := Json.map_eq_ok_iff.mp hmap
    exact ⟨value, (decodeOr_eq_ok_iff value).mp hvalue, hnext⟩
  · rintro ⟨value, hvalue, hnext⟩
    refine ⟨_, Json.map_eq_ok_iff.mpr ⟨value, ?_, rfl⟩, hnext⟩
    exact (decodeOr_eq_ok_iff value).mpr hvalue

end Reading

/-! ## All fields -/

/-- The fields of settings in the order they are taken. -/
def taken : List String :=
  ["typeField", "refField", "pathPrefix", "segmentSeparator", "indexMarker", "pretty"]

/-- What is left once all fields with a meaning are taken. -/
def leftover (fields : Remaining) : Remaining :=
  taken.foldl (fun remaining name => (remaining.take name).2) fields

theorem isLeft_foldl {fields : Remaining} (unique : (fields.map Prod.fst).Nodup) :
    ∀ (names before : List String) (remaining : Remaining), remaining.IsLeft fields before →
    (names.foldl (fun remaining name => (remaining.take name).2) remaining).IsLeft fields
      (names.reverse ++ before)
  | [], _, _, h => h
  | name :: names, before, remaining, h => by
    rw [List.reverse_cons, List.append_assoc]
    exact isLeft_foldl unique names (name :: before) _ (h.take unique name)

/-- Settings are read if each field is, and what is left is what no field was taken for. -/
theorem run_read_iff {fields : Remaining} (unique : (fields.map Prod.fst).Nodup)
    (settings : Settings) (rest : Remaining) :
    read.run fields = .ok (settings, rest) ↔
      Conventions.fields.Reads fields settings.conventions.values ∧
      Json.Field.Reads ⟨"pretty", .bool, .defaulted false⟩ fields settings.pretty ∧
      leftover fields = rest := by
  -- When a field's turn comes, what is left is what the names before it have not taken.
  have h0 := Remaining.isLeft_self fields
  have h1 := h0.take unique "typeField"
  have h2 := h1.take unique "refField"
  have h3 := h2.take unique "pathPrefix"
  have h4 := h3.take unique "segmentSeparator"
  have h5 := h4.take unique "indexMarker"
  constructor
  · intro h
    obtain ⟨typeField, htypeField, h⟩ := (run_readField_bind_iff unique h0 (by decide)).mp h
    obtain ⟨refField, hrefField, h⟩ := (run_readField_bind_iff unique h1 (by decide)).mp h
    obtain ⟨pathPrefix, hpathPrefix, h⟩ := (run_readField_bind_iff unique h2 (by decide)).mp h
    obtain ⟨separator, hseparator, h⟩ := (run_readField_bind_iff unique h3 (by decide)).mp h
    obtain ⟨marker, hmarker, h⟩ := (run_readField_bind_iff unique h4 (by decide)).mp h
    obtain ⟨pretty, hpretty, h⟩ := (run_readField_bind_iff unique h5 (by decide)).mp h
    cases h
    exact ⟨⟨htypeField, hrefField, hpathPrefix, hseparator, hmarker, trivial⟩, hpretty, rfl⟩
  · rintro ⟨⟨htypeField, hrefField, hpathPrefix, hseparator, hmarker, -⟩, hpretty, rfl⟩
    refine (run_readField_bind_iff unique h0 (by decide)).mpr ⟨_, htypeField, ?_⟩
    refine (run_readField_bind_iff unique h1 (by decide)).mpr ⟨_, hrefField, ?_⟩
    refine (run_readField_bind_iff unique h2 (by decide)).mpr ⟨_, hpathPrefix, ?_⟩
    refine (run_readField_bind_iff unique h3 (by decide)).mpr ⟨_, hseparator, ?_⟩
    refine (run_readField_bind_iff unique h4 (by decide)).mpr ⟨_, hmarker, ?_⟩
    exact (run_readField_bind_iff unique h5 (by decide)).mpr ⟨_, hpretty, rfl⟩

/-- Every key that is left stands for a field without a meaning, once. -/
theorem keys_leftover {fields : Remaining} (unique : (fields.map Prod.fst).Nodup) :
    ((leftover fields).map Prod.fst).Nodup ∧
      ∀ key, key ∈ (leftover fields).map Prod.fst ↔ key ∈ fields.map Prod.fst ∧ key ∉ taken := by
  have hleft : (leftover fields).IsLeft fields (taken.reverse ++ []) :=
    isLeft_foldl unique taken [] fields (Remaining.isLeft_self fields)
  refine ⟨hleft.unique unique, fun key => ?_⟩
  rw [(hleft.map Prod.fst).mem_iff]
  simp only [List.append_nil, List.mem_reverse, List.mem_map, List.mem_filter, decide_eq_true_eq]
  constructor
  · rintro ⟨field, ⟨hmem, htaken⟩, rfl⟩
    exact ⟨⟨field, hmem, rfl⟩, htaken⟩
  · rintro ⟨⟨field, hmem, rfl⟩, htaken⟩
    exact ⟨field, ⟨hmem, htaken⟩, rfl⟩

/-- What is reported of a field without a meaning. -/
def unknownField (key : String) : LogRecord :=
  ⟨.warn, "weft::config", "Unknown field config." ++ key⟩

theorem ofJson_eq_ok_iff {fields : Remaining} (unique : (fields.map Prod.fst).Nodup)
    (settings : Settings) (log : List LogRecord) :
    ofJson (.object fields) = .ok (settings, log) ↔
      Conventions.decoder.decode (.object fields) = .ok settings.conventions ∧
      Json.Field.Reads ⟨"pretty", .bool, .defaulted false⟩ fields settings.pretty ∧
      ((leftover fields).map Prod.fst).map unknownField = log := by
  have hjson : ofJson (.object fields) = (read.run fields).bind fun result =>
      .ok (result.1, result.2.map fun field => unknownField field.1) := rfl
  rw [hjson, bind_eq_ok_iff, Conventions.decode_eq_ok_iff unique, List.map_map]
  constructor
  · rintro ⟨⟨found, rest⟩, hread, h⟩
    cases h
    obtain ⟨hconventions, hpretty, rfl⟩ := (run_read_iff unique found rest).mp hread
    exact ⟨hconventions, hpretty, rfl⟩
  · rintro ⟨hconventions, hpretty, rfl⟩
    exact ⟨_, (run_read_iff unique settings _).mpr ⟨hconventions, hpretty, rfl⟩, rfl⟩

/-! ## Agreement -/

/-- Settings whose `pretty` is a truth value, if it is there, are read from an object just if conventions
are, and hold these.  Each key that is not one of the six fields is reported once, and nothing else
is. -/
theorem ofJson_agrees {fields : List (String × Json)} (unique : (fields.map Prod.fst).Nodup)
    (hpretty : ∀ value, lookup fields "pretty" = some value → ∃ flag, value = .bool flag) :
    ((∃ result, ofJson (.object fields) = .ok result) ↔
      ∃ conventions, Conventions.decoder.decode (.object fields) = .ok conventions) ∧
    ∀ settings log, ofJson (.object fields) = .ok (settings, log) →
      Conventions.decoder.decode (.object fields) = .ok settings.conventions ∧
      ∃ unknown : List String,
        log = unknown.map (fun key => ⟨.warn, "weft::config", "Unknown field config." ++ key⟩) ∧
        unknown.Nodup ∧ ∀ key, key ∈ unknown ↔ key ∈ fields.map Prod.fst ∧
          key ∉ ["typeField", "refField", "pathPrefix", "segmentSeparator", "indexMarker", "pretty"] := by
  -- Only `pretty` could be refused by one reader alone, and here it is read for certain.
  have hflag : ∃ flag, Json.Field.Reads ⟨"pretty", .bool, .defaulted false⟩ fields flag := by
    cases hlookup : lookup fields "pretty" with
    | none => exact ⟨false, by rw [Json.Field.Reads, hlookup]; rfl⟩
    | some value =>
      obtain ⟨flag, rfl⟩ := hpretty value hlookup
      exact ⟨flag, Json.Field.reads_of_lookup hlookup rfl⟩
  constructor
  · constructor
    · rintro ⟨⟨settings, log⟩, h⟩
      exact ⟨settings.conventions, ((ofJson_eq_ok_iff unique settings log).mp h).1⟩
    · rintro ⟨conventions, h⟩
      obtain ⟨flag, hflag⟩ := hflag
      exact ⟨_, (ofJson_eq_ok_iff unique ⟨conventions, flag⟩ _).mpr ⟨h, hflag, rfl⟩⟩
  · intro settings log h
    obtain ⟨hconventions, -, rfl⟩ := (ofJson_eq_ok_iff unique settings log).mp h
    exact ⟨hconventions, _, rfl, keys_leftover unique⟩

/-- An object with two conventions, a truth value for `pretty` and two fields without a meaning. -/
def mixedFields : List (String × Json) :=
  [("colour", .string "red"), ("refField", .string "$path"), ("pretty", .bool true),
    ("indexMarker", .string ":"), ("width", .null)]

theorem ofJson_agrees_mixed :
    (mixedFields.map Prod.fst).Nodup ∧ lookup mixedFields "pretty" = some (.bool true) ∧
    ((∃ result, ofJson (.object mixedFields) = .ok result) ↔
      ∃ conventions, Conventions.decoder.decode (.object mixedFields) = .ok conventions) ∧
    ofJson (.object mixedFields) = .ok
      (⟨⟨"$type", "$path", '#', '/', ':'⟩, true⟩,
        [⟨.warn, "weft::config", "Unknown field config.colour"⟩,
          ⟨.warn, "weft::config", "Unknown field config.width"⟩]) ∧
    Conventions.decoder.decode (.object mixedFields) = .ok ⟨"$type", "$path", '#', '/', ':'⟩ := by
  have unique : (mixedFields.map Prod.fst).Nodup := by decide
  have hpretty : lookup mixedFields "pretty" = some (.bool true) := rfl
  have agrees := ofJson_agrees unique fun value h => ⟨true, Option.some.inj (h.symm.trans hpretty)⟩
  have hread : ofJson (.object mixedFields) = .ok
      (⟨⟨"$type", "$path", '#', '/', ':'⟩, true⟩,
        [⟨.warn, "weft::config", "Unknown field config.colour"⟩,
          ⟨.warn, "weft::config", "Unknown field config.width"⟩]) := rfl
  exact ⟨unique, hpretty, agrees.1, hread, (agrees.2 _ _ hread).1⟩

end Settings

end EditorBridge
