import EditorBridge.Grammar.Format
import EditorBridge.Proofs.Json.Records
/-!
Grammar models survive serialization.  What an element or a definition is written as leads back to it:
the kind selects the variant, and every part is read within the depth that is left, so the induction
follows the parts (`ElementModel.decodeWithin_toJson`, `TerminalDefinition.decodeWithin_toJson`).  Rules
and models are put together from there.
-/

set_option autoImplicit false

namespace EditorBridge

open Json (Decoder Mismatch Row)

/-! ## Depth -/

theorem Json.one_le_depth (value : Json) : 1 ≤ value.depth := by
  cases value <;> simp [Json.depth]

theorem Json.depth_le_depthFields {fields : List (String × Json)} {field : String × Json}
    (h : field ∈ fields) : field.2.depth ≤ Json.depthFields fields := by
  induction fields with
  | nil => exact absurd h List.not_mem_nil
  | cons first rest ih =>
    rw [Json.depthFields]
    rcases List.mem_cons.mp h with rfl | hrest
    · exact Nat.le_max_left _ _
    · exact Nat.le_trans (ih hrest) (Nat.le_max_right _ _)

theorem Json.depth_lt_of_mem {fields : List (String × Json)} {field : String × Json} {depth : Nat}
    (h : field ∈ fields) (hdepth : (Json.object fields).depth ≤ depth) : field.2.depth < depth := by
  rw [Json.depth] at hdepth
  exact Nat.lt_of_le_of_lt (Json.depth_le_depthFields h) hdepth

/-! ## Cardinalities -/

namespace Cardinality

theorem decode_sign (cardinality : Cardinality) :
    decode (.string cardinality.sign) = .ok cardinality := by
  cases cardinality <;> rfl

theorem split_of_not_mem (found : Option (Option Cardinality)) :
    ∀ {fields : List (String × Json)}, "cardinality" ∉ fields.map Prod.fst →
    split fields found = .ok (found.getD none, fields)
  | [], _ => rfl
  | (name, value) :: rest, h => by
    rw [List.map_cons, List.mem_cons, not_or] at h
    rw [split, if_neg (by simpa using Ne.symm h.1), split_of_not_mem found h.2]
    rfl

/-- The cardinality that was written in front of the other fields is taken out again. -/
theorem split_field (cardinality : Option Cardinality) {fields : List (String × Json)}
    (h : "cardinality" ∉ fields.map Prod.fst) :
    split (field cardinality ++ fields) none = .ok (cardinality, fields) := by
  cases cardinality with
  | none => exact split_of_not_mem none h
  | some cardinality =>
    change ((some <$> decode (.string cardinality.sign)).bind fun found =>
      split fields (some found)) = _
    rw [decode_sign]
    exact split_of_not_mem (some (some cardinality)) h

end Cardinality

/-! ## Elements -/

namespace ElementModel

theorem toJson_ne_null (element : ElementModel) : toJson element ≠ .null := by
  cases element <;> nofun

theorem decodeWithin_succ (depth : Nat) (fields : List (String × Json)) :
    decodeWithin (depth + 1) (.object fields) = (Cardinality.split fields none).bind fun found =>
      Decoder.decodeTagged "internally tagged enum ElementKind" "kind"
        (variants (decodeWithin depth) found.1) (.object found.2) := rfl

/-- An element is read from what stands after its kind, by the record of this kind, with less depth
left for its parts. -/
theorem decodeWithin_eq_ok {depth : Nat} {cardinality : Option Cardinality} {kind title : String}
    {rest : List (String × Json)} (types : List Type) (values : Row Id types)
    {fields : (Json → Except Mismatch ElementModel) → Row Json.Field types}
    {build : Row Id types → ElementModel}
    (hvariant : ∀ part, ((variants part cardinality).find? fun variant => variant.name == kind) =
      some (.record kind title types (fields part) build))
    (hfields : ∀ part, (fields part).names = rest.map Prod.fst)
    (hrest : ("cardinality" :: "kind" :: rest.map Prod.fst).Nodup)
    (hdepth : (Json.object (Cardinality.field cardinality ++ ("kind", .string kind) :: rest)).depth ≤
      depth)
    (hread : ∀ inner, (∀ field ∈ rest, field.2.depth ≤ inner) →
      (fields (decodeWithin inner)).Reads rest values) :
    decodeWithin depth (.object (Cardinality.field cardinality ++ ("kind", .string kind) :: rest)) =
      .ok (build values) := by
  obtain ⟨hcardinality, hkeys⟩ := List.nodup_cons.mp hrest
  obtain ⟨inner, rfl⟩ : ∃ inner, depth = inner + 1 :=
    Nat.exists_eq_add_of_le' (Nat.le_trans (Json.one_le_depth _) hdepth)
  have hparts : ∀ field ∈ rest, field.2.depth ≤ inner := fun field hfield =>
    Nat.le_of_lt_succ (Json.depth_lt_of_mem
      (List.mem_append_right _ (List.mem_cons_of_mem _ hfield)) hdepth)
  have hsplit : Cardinality.split
      (Cardinality.field cardinality ++ ("kind", .string kind) :: rest) none =
        .ok (cardinality, ("kind", .string kind) :: rest) :=
    Cardinality.split_field cardinality hcardinality
  rw [decodeWithin_succ, hsplit, Except.bind]
  exact Decoder.decodeTagged_record (hvariant _) (hfields _) hkeys (hread inner hparts)

/-- Elements that hold a list of elements differ in their kind only. -/
theorem decodeWithin_of_elements {depth : Nat} {cardinality : Option Cardinality}
    {kind title : String} {elements : List ElementModel} {build : List ElementModel → ElementModel}
    (hvariant : ∀ part, ((variants part cardinality).find? fun variant => variant.name == kind) =
      some (.record kind title [List ElementModel]
        (⟨"elements", .list (.buffered part), .required⟩, ()) fun (elements, _) => build elements))
    (hdepth : (Json.object (Cardinality.field cardinality ++ [("kind", .string kind),
      ("elements", .array (listToJson elements))])).depth ≤ depth)
    (helements : ∀ inner, (Json.array (listToJson elements)).depth ≤ inner →
      (listToJson elements).mapM (decodeWithin inner) = .ok elements) :
    decodeWithin depth (.object (Cardinality.field cardinality ++ [("kind", .string kind),
      ("elements", .array (listToJson elements))])) = .ok (build elements) := by
  refine decodeWithin_eq_ok [List ElementModel] (elements, ()) hvariant (fun _ => rfl) (by simp)
    hdepth fun inner hparts => ?_
  have hread := helements inner (hparts ("elements", _) (by simp))
  exact ⟨Json.Field.reads_of_lookup rfl hread, trivial⟩

-- The depth that is left for a part is one less than for the whole, not its own, so the statement is
-- about every depth that suffices.
mutual
theorem decodeWithin_toJson : ∀ (element : ElementModel) (depth : Nat),
    (toJson element).depth ≤ depth → decodeWithin depth (toJson element) = .ok element
  | keyword cardinality value, depth, h => by
    refine decodeWithin_eq_ok [String] (value, ()) (fun _ => rfl) (fun _ => rfl) (by simp) h ?_
    exact fun _ _ => ⟨Json.Field.reads_of_lookup rfl rfl, trivial⟩
  | ruleCall cardinality rule, depth, h => by
    refine decodeWithin_eq_ok [String] (rule, ()) (fun _ => rfl) (fun _ => rfl) (by simp) h ?_
    exact fun _ _ => ⟨Json.Field.reads_of_lookup rfl rfl, trivial⟩
  | assignment cardinality feature operator terminal, depth, h => by
    refine decodeWithin_eq_ok [String, String, ElementModel] (feature, operator, terminal, ())
      (fun _ => rfl) (fun _ => rfl) (by simp) h fun inner hparts => ?_
    have hterminal := decodeWithin_toJson terminal inner (hparts ("terminal", _) (by simp))
    exact ⟨Json.Field.reads_of_lookup rfl rfl, Json.Field.reads_of_lookup rfl rfl,
      Json.Field.reads_of_lookup rfl hterminal, trivial⟩
  | group cardinality elements, depth, h =>
    decodeWithin_of_elements (fun _ => rfl) h (mapM_decodeWithin elements)
  | alternatives cardinality elements, depth, h =>
    decodeWithin_of_elements (fun _ => rfl) h (mapM_decodeWithin elements)
  | unorderedGroup cardinality elements, depth, h =>
    decodeWithin_of_elements (fun _ => rfl) h (mapM_decodeWithin elements)
  | crossReference cardinality typeName terminal, depth, h => by
    refine decodeWithin_eq_ok [String, Option ElementModel] (typeName, terminal, ())
      (fun _ => rfl) (fun _ => rfl) (by simp) h fun inner hparts => ?_
    have hterminal := decode_optionToJson terminal inner (hparts ("terminal", _) (by simp))
    exact ⟨Json.Field.reads_of_lookup rfl rfl, Json.Field.reads_of_lookup rfl hterminal, trivial⟩
  | action cardinality typeName, depth, h => by
    refine decodeWithin_eq_ok [String] (typeName, ()) (fun _ => rfl) (fun _ => rfl) (by simp) h ?_
    exact fun _ _ => ⟨Json.Field.reads_of_lookup rfl rfl, trivial⟩
termination_by structural element => element

theorem mapM_decodeWithin : ∀ (elements : List ElementModel) (depth : Nat),
    (Json.array (listToJson elements)).depth ≤ depth →
    (listToJson elements).mapM (decodeWithin depth) = .ok elements
  | [], _, _ => rfl
  | element :: rest, depth, h => by
    rw [listToJson, Json.depth, Json.depthItems] at h
    have helement := decodeWithin_toJson element depth (by omega)
    have hrest := mapM_decodeWithin rest depth (by rw [Json.depth]; omega)
    rw [listToJson, List.mapM_cons, helement, hrest]
    rfl
termination_by structural elements => elements

theorem decode_optionToJson : ∀ (element : Option ElementModel) (depth : Nat),
    (optionToJson element).depth ≤ depth →
    (Decoder.option (.buffered (decodeWithin depth))).decode (optionToJson element) = .ok element
  | none, _, _ => rfl
  | some element, depth, h =>
    Decoder.decode_option_of_ne_null (toJson_ne_null element) (decodeWithin_toJson element depth h)
termination_by structural element => element
end

theorem decode_toJson (element : ElementModel) : decode (toJson element) = .ok element :=
  decodeWithin_toJson element _ (Nat.le_refl _)

end ElementModel

/-! ## Terminal definitions -/

namespace TerminalDefinition

/-- A definition is read from what stands after its kind, by the record of this kind, with less depth
left for its parts. -/
theorem decodeWithin_eq_ok {depth : Nat} {kind title : String} {rest : List (String × Json)}
    (types : List Type) (values : Row Id types)
    {fields : (Json → Except Mismatch TerminalDefinition) → Row Json.Field types}
    {build : Row Id types → TerminalDefinition}
    (hvariant : ∀ part, ((variants part).find? fun variant => variant.name == kind) =
      some (.record kind title types (fields part) build))
    (hfields : ∀ part, (fields part).names = rest.map Prod.fst)
    (hrest : ("kind" :: rest.map Prod.fst).Nodup)
    (hdepth : (Json.object (("kind", .string kind) :: rest)).depth ≤ depth)
    (hread : ∀ inner, (∀ field ∈ rest, field.2.depth ≤ inner) →
      (fields (decodeWithin inner)).Reads rest values) :
    decodeWithin depth (.object (("kind", .string kind) :: rest)) = .ok (build values) := by
  obtain ⟨inner, rfl⟩ : ∃ inner, depth = inner + 1 :=
    Nat.exists_eq_add_of_le' (Nat.le_trans (Json.one_le_depth _) hdepth)
  have hparts : ∀ field ∈ rest, field.2.depth ≤ inner := fun field hfield =>
    Nat.le_of_lt_succ (Json.depth_lt_of_mem (List.mem_cons_of_mem _ hfield) hdepth)
  exact Decoder.decodeTagged_record (hvariant _) (hfields _) hrest (hread inner hparts)

mutual
theorem decodeWithin_toJson : ∀ (definition : TerminalDefinition) (depth : Nat),
    (toJson definition).depth ≤ depth → decodeWithin depth (toJson definition) = .ok definition
  | regex pattern, depth, h => by
    refine decodeWithin_eq_ok [String] (pattern, ()) (fun _ => rfl) (fun _ => rfl) (by simp) h ?_
    exact fun _ _ => ⟨Json.Field.reads_of_lookup rfl rfl, trivial⟩
  | literal value, depth, h => by
    refine decodeWithin_eq_ok [String] (value, ()) (fun _ => rfl) (fun _ => rfl) (by simp) h ?_
    exact fun _ _ => ⟨Json.Field.reads_of_lookup rfl rfl, trivial⟩
  | ruleCall rule, depth, h => by
    refine decodeWithin_eq_ok [String] (rule, ()) (fun _ => rfl) (fun _ => rfl) (by simp) h ?_
    exact fun _ _ => ⟨Json.Field.reads_of_lookup rfl rfl, trivial⟩
  | group elements, depth, h => by
    refine decodeWithin_eq_ok [List TerminalDefinition] (elements, ())
      (fun _ => rfl) (fun _ => rfl) (by simp) h fun inner hparts => ?_
    have helements := mapM_decodeWithin elements inner (hparts ("elements", _) (by simp))
    exact ⟨Json.Field.reads_of_lookup rfl helements, trivial⟩
  | alternatives elements, depth, h => by
    refine decodeWithin_eq_ok [List TerminalDefinition] (elements, ())
      (fun _ => rfl) (fun _ => rfl) (by simp) h fun inner hparts => ?_
    have helements := mapM_decodeWithin elements inner (hparts ("elements", _) (by simp))
    exact ⟨Json.Field.reads_of_lookup rfl helements, trivial⟩
termination_by structural definition => definition

theorem mapM_decodeWithin : ∀ (definitions : List TerminalDefinition) (depth : Nat),
    (Json.array (listToJson definitions)).depth ≤ depth →
    (listToJson definitions).mapM (decodeWithin depth) = .ok definitions
  | [], _, _ => rfl
  | definition :: rest, depth, h => by
    rw [listToJson, Json.depth, Json.depthItems] at h
    have hdefinition := decodeWithin_toJson definition depth (by omega)
    have hrest := mapM_decodeWithin rest depth (by rw [Json.depth]; omega)
    rw [listToJson, List.mapM_cons, hdefinition, hrest]
    rfl
termination_by structural definitions => definitions
end

theorem decode_toJson (definition : TerminalDefinition) :
    decode (toJson definition) = .ok definition :=
  decodeWithin_toJson definition _ (Nat.le_refl _)

end TerminalDefinition

/-! ## Rules -/

theorem ParserRuleModel.decode_eq_ok (rule : ParserRuleModel) :
    ParserRuleModel.decoder.decode (.object [("name", .string rule.name), ("entry", .bool rule.entry),
      ("definition", rule.definition.toJson)]) = .ok rule := by
  refine (Decoder.decode_record_iff (by decide) (by simp) _).mpr
    ⟨(rule.name, rule.entry, rule.definition, ()), ?_, rfl⟩
  exact ⟨Json.Field.reads_of_lookup rfl rfl, Json.Field.reads_of_lookup rfl rfl,
    Json.Field.reads_of_lookup rfl rule.definition.decode_toJson, trivial⟩

/-- A type that is not declared is written as null and read as absent. -/
theorem decode_ofOption (typeName : Option String) :
    (Decoder.option .string).decode (.ofOption typeName) = .ok typeName := by
  cases typeName <;> rfl

theorem TerminalRuleModel.decode_eq_ok (rule : TerminalRuleModel) :
    TerminalRuleModel.decoder.decode (.object [("name", .string rule.name),
      ("type", .ofOption rule.typeName), ("hidden", .bool rule.hidden),
      ("fragment", .bool rule.fragment), ("definition", rule.definition.toJson)]) = .ok rule := by
  refine (Decoder.decode_record_iff (by decide) (by simp) _).mpr
    ⟨(rule.name, rule.typeName, rule.hidden, rule.fragment, rule.definition, ()), ?_, rfl⟩
  exact ⟨Json.Field.reads_of_lookup rfl rfl, Json.Field.reads_of_lookup rfl (decode_ofOption rule.typeName),
    Json.Field.reads_of_lookup rfl rfl, Json.Field.reads_of_lookup rfl rfl,
    Json.Field.reads_of_lookup rfl rule.definition.decode_toJson, trivial⟩

theorem RuleModel.decode_toJson (rule : RuleModel) :
    RuleModel.decoder.decode rule.toJson = .ok rule := by
  rw [decoder, Decoder.decode_tagged]
  cases rule with
  | parser rule =>
    refine Eq.trans (Decoder.decodeTagged_cons rfl (by simp)) ?_
    exact congrArg (Except.map parser) rule.decode_eq_ok
  | terminal rule =>
    refine Eq.trans (Decoder.decodeTagged_cons rfl (by simp)) ?_
    exact congrArg (Except.map terminal) rule.decode_eq_ok

theorem RuleModel.mapM_decode_toJson (rules : List RuleModel) :
    (rules.map toJson).mapM decoder.decode = .ok rules := by
  induction rules with
  | nil => rfl
  | cons rule rest ih =>
    rw [List.map_cons, List.mapM_cons, rule.decode_toJson, ih]
    rfl

/-! ## Models -/

namespace GrammarModel

theorem decode_toJson (model : GrammarModel) : decoder.decode model.toJson = .ok model := by
  refine (Decoder.decode_record_iff (by decide) (by simp) _).mpr
    ⟨(model.name, model.rules, ()), ?_, rfl⟩
  exact ⟨Json.Field.reads_of_lookup rfl rfl,
    Json.Field.reads_of_lookup rfl (RuleModel.mapM_decode_toJson model.rules), trivial⟩

/-- A model is what was read from JSON, be it a value or a text. -/
def WasRead (model : GrammarModel) : Prop :=
  (∃ value, decoder.decode value = .ok model) ∨ ∃ text, decoder.run text = .ok model

/-- Every model is read back from what it is written as.  A model that was read from JSON, however it
was spelled there, is thus written as a document that holds the same model, and that model is written
the same once more. -/
theorem survives_serialization :
    (∀ model : GrammarModel, decoder.decode model.toJson = .ok model) ∧
      ∀ model : GrammarModel, model.WasRead → ∃ again, decoder.decode model.toJson = .ok again ∧
        again = model ∧ again.toJson = model.toJson :=
  ⟨decode_toJson, fun model _ => ⟨model, decode_toJson model, rfl, rfl⟩⟩

/-- A document that leaves out what has a default, and spells a cardinality and a definition in other
ways than they are written. -/
def looseDocument : Json := .object [("rules", .array [
  .object [("kind", .string "parser"), ("name", .string "Model"),
    ("definition", .object [("type", .string "Item"), ("cardinality", .object [("*", .null)]),
      ("kind", .string "crossReference")])],
  .object [("name", .string "Space"), ("hidden", .bool true), ("kind", .string "terminal"),
    ("definition", .array [.string "regex", .string "[ ]+"])]])]

def looseModel : GrammarModel where
  name := ""
  rules := [.parser ⟨"Model", false, .crossReference (some .many) "Item" none⟩,
    .terminal ⟨"Space", none, true, false, .regex "[ ]+"⟩]

theorem survives_serialization_loose : looseModel.WasRead ∧ looseModel.toJson ≠ looseDocument ∧
    ∃ again, decoder.decode looseModel.toJson = .ok again ∧ again = looseModel ∧
      again.toJson = looseModel.toJson := by
  have hread : looseModel.WasRead := Or.inl ⟨looseDocument, rfl⟩
  exact ⟨hread, by simp [looseModel, looseDocument, toJson], survives_serialization.2 _ hread⟩

end GrammarModel

end EditorBridge
