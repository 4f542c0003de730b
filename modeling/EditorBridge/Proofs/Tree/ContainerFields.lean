import EditorBridge.Proofs.Json.SameData
import EditorBridge.Proofs.Tree.Relinking
/-!
Container fields of documents.  The builder passes over them wherever they stand, so a document and what
is left of it without them are harvested alike (`Conventions.harvest_without`), down to the numbers of
the handles.  Two documents that differ in such fields only are linked into the same tree.
-/

set_option autoImplicit false

namespace EditorBridge

namespace Conventions

variable {conventions : Conventions}

theorem textAt?_without {name : String} (hname : isContainerField name = false)
    (fields : List (String × Json)) :
    textAt? (Json.fieldsWithout isContainerField fields) name = textAt? fields name := by
  rw [textAt?, textAt?, Json.lookup_fieldsWithout, hname, if_neg Bool.false_ne_true]
  cases Json.lookup fields name with
  | none => rfl
  | some value => cases value <;> rfl

theorem classify_without (marks : conventions.MarksKept) (fields : List (String × Json)) :
    conventions.classify (Json.fieldsWithout isContainerField fields) = conventions.classify fields :=
  classify_congr (textAt?_without marks.refField fields) (textAt?_without marks.typeField fields)

/-! ## Harvesting what is left -/

mutual
theorem harvest_without (marks : conventions.MarksKept) : ∀ (nodes references : Nat) (json : Json),
    conventions.harvest nodes references (json.without isContainerField) =
      conventions.harvest nodes references json
  | _, _, .null | _, _, .bool _ | _, _, .number _ | _, _, .string _ => rfl
  | nodes, references, .array items => by
    rw [Json.without, harvest, harvest, harvestItems_without marks]
  | nodes, references, .object fields => by
    have hfields := fun skipped nodes references =>
      harvestFields_without marks skipped nodes references fields
    rw [Json.without, harvest, harvest, classify_without marks]
    simp only [hfields]
termination_by structural _ _ json => json

theorem harvestItems_without (marks : conventions.MarksKept) :
    ∀ (nodes references : Nat) (items : List Json),
      conventions.harvestItems nodes references (Json.itemsWithout isContainerField items) =
        conventions.harvestItems nodes references items
  | _, _, [] => rfl
  | nodes, references, item :: rest => by
    rw [Json.itemsWithout, harvestItems, harvestItems, harvest_without marks,
      harvestItems_without marks]
termination_by structural _ _ items => items

theorem harvestFields_without (marks : conventions.MarksKept) (skipped : Option String) :
    ∀ (nodes references : Nat) (fields : List (String × Json)),
      conventions.harvestFields skipped nodes references
          (Json.fieldsWithout isContainerField fields) =
        conventions.harvestFields skipped nodes references fields
  | _, _, [] => rfl
  | nodes, references, (name, value) :: rest => by
    have hvalue := harvest_without marks nodes references value
    have hrest := fun nodes references => harvestFields_without marks skipped nodes references rest
    cases hname : isContainerField name with
    | true =>
      -- The field is not there on the left, and on the right it is passed over.
      rw [Json.fieldsWithout, if_pos hname, harvestFields, hname, Bool.true_or, if_pos rfl]
      exact hrest nodes references
    | false =>
      rw [Json.fieldsWithout, if_neg (ne_true_of_eq_false hname), harvestFields, harvestFields]
      simp only [hvalue, hrest]
termination_by structural _ _ fields => fields
end

theorem build_without (marks : conventions.MarksKept) (fields : List (String × Json)) :
    conventions.build (Json.fieldsWithout isContainerField fields) = conventions.build fields := by
  have hkind := textAt?_without marks.typeField fields
  have hproperties := harvestFields_without marks (some conventions.typeField) 1 0 fields
  rw [textAt?, textAt?] at hkind
  simp only [build, hkind, hproperties]

end Conventions

namespace LinkedTree

theorem ofJson_without {conventions : Conventions} (marks : conventions.MarksKept)
    (fields : List (String × Json)) :
    ofJson conventions ((Json.object fields).without isContainerField) =
      ofJson conventions (.object fields) := by
  rw [Json.without, ofJson_object, ofJson_object, Conventions.build_without marks]

/-- **Container fields of documents have no influence.**  Documents that are the same without them are
linked into one tree, with the same handles, targets and containers; it is the tree of what is left. -/
theorem ofJson_eq_of_without_eq (conventions : Conventions) (marks : conventions.MarksKept)
    (fields others : List (String × Json))
    (same : (Json.object fields).without isContainerField =
      (Json.object others).without isContainerField) :
    ∃ tree, ofJson conventions (.object fields) = .ok tree ∧
      ofJson conventions (.object others) = .ok tree ∧
      ofJson conventions ((Json.object fields).without isContainerField) = .ok tree := by
  have hfields := ofJson_object conventions fields
  have hleft := ofJson_without marks fields
  have hothers := ofJson_without marks others
  refine ⟨_, hfields, ?_, hleft.trans hfields⟩
  rw [← hothers, ← same, hleft, hfields]

/-- The nested document with nodes and references under container fields in its root, in a node inside
of two arrays, in a record and in a reference. -/
def intrudedDocument : List (String × Json) :=
  [("$container", .object [("$type", .string "Stray"), ("to", .object [("$ref", .string "#")])]),
    ("$type", .string "Model"),
    ("items", .array [.object [("$type", .string "Item")],
      .array [.object [("$containerIndex", .array [.object [("$type", .string "Stray")]]),
        ("$type", .string "Deep")]],
      .object [("$type", .string "Item"), ("leaf", .object [("$type", .string "Leaf")])]]),
    ("meta", .object [("$type", .null), ("$containerProperty", .object [("$ref", .string "#/items@0")]),
      ("note", .object [("$type", .string "Note")])]),
    ("first", .object [("$ref", .string "#/items@0"),
      ("$container", .object [("$type", .string "Stray")]),
      ("text", .object [("$type", .string "Text")])])]

theorem ofJson_eq_of_without_eq_intruded :
    Conventions.MarksKept {} ∧ (Json.object nestedDocument).without isContainerField =
        (Json.object intrudedDocument).without isContainerField ∧
      ∃ tree, ofJson {} (.object nestedDocument) = .ok tree ∧
        ofJson {} (.object intrudedDocument) = .ok tree ∧
        ofJson {} ((Json.object nestedDocument).without isContainerField) = .ok tree :=
  ⟨Conventions.marksKept_default, rfl,
    ofJson_eq_of_without_eq {} Conventions.marksKept_default nestedDocument intrudedDocument rfl⟩

end LinkedTree

end EditorBridge
