import EditorBridge.Proofs.Tree.Rendition
/-!
Linking what was rendered.  Rendering moves the mark of an entry to the front and adds what there is
to say about its container; the builder leaves both out of the properties, so each piece of JSON and
what is rendered of its value are harvested alike (`Conventions.reproduces_composes`), and the tree is
the same.
-/

set_option autoImplicit false

namespace EditorBridge

namespace Conventions

variable {conventions : Conventions}

theorem classify_congr {fields others : List (String × Json)}
    (href : textAt? fields conventions.refField = textAt? others conventions.refField)
    (htype : textAt? fields conventions.typeField = textAt? others conventions.typeField) :
    conventions.classify fields = conventions.classify others := by
  rw [textAt?, textAt?] at href htype
  rw [classify, classify, href, htype]

/-! ## What is dropped -/

theorem harvestFields_append_of_dropped (conventions : Conventions) {skipped : Option String}
    {dropped : List (String × Json)} (h : ∀ field ∈ dropped, drops skipped field.1 = true)
    (a : Frontier) (rest : List (String × Json)) :
    conventions.harvestFields skipped a.nodes a.references (dropped ++ rest) =
      conventions.harvestFields skipped a.nodes a.references rest := by
  induction dropped with
  | nil => rfl
  | cons field dropped ih =>
    rw [List.cons_append, harvestFields_cons_of_dropped _ _ _ _ (h field List.mem_cons_self)]
    exact ih fun other hmem => h other (List.mem_cons_of_mem _ hmem)

/-- The mark and the container of an entry that was rendered are dropped again. -/
theorem harvestFields_written (conventions : Conventions) {mark : String} {text : Option String}
    {properties fields : List (String × Json)} (h : Written mark text properties fields)
    (a : Frontier) : conventions.harvestFields (some mark) a.nodes a.references fields =
      conventions.harvestFields (some mark) a.nodes a.references properties := by
  obtain ⟨about, habout, rfl⟩ := h.eq_append
  refine conventions.harvestFields_append_of_dropped (fun field hmem => ?_) a properties
  rw [drops, Bool.or_eq_true]
  rcases List.mem_append.mp hmem with hmem | hmem
  · obtain ⟨written, rfl⟩ := eq_mark_of_mem hmem
    exact Or.inr (beq_self_eq_true _)
  · exact Or.inl (habout.keys field hmem)

/-! ## Harvesting again -/

/-- Another piece of JSON passes for a first one: it is harvested alike, and it is text just if the
first one is. -/
structure Reproduces (conventions : Conventions) (a : Frontier) (json other : Json) : Prop where
  harvest_eq : conventions.harvest a.nodes a.references other =
    conventions.harvest a.nodes a.references json
  asString?_eq : other.asString? = json.asString?
  unique : other.hasUniqueKeys = true

/-- Other items are harvested like the first ones. -/
structure ReproducesItems (conventions : Conventions) (a : Frontier) (items others : List Json) :
    Prop where
  harvest_eq : conventions.harvestItems a.nodes a.references others =
    conventions.harvestItems a.nodes a.references items
  unique : ∀ item ∈ others, item.hasUniqueKeys = true

/-- Other fields are harvested like the first ones, and have the same text under every name that is not
dropped. -/
structure ReproducesFields (conventions : Conventions) (skipped : Option String) (a : Frontier)
    (fields others : List (String × Json)) : Prop where
  harvest_eq : conventions.harvestFields skipped a.nodes a.references others =
    conventions.harvestFields skipped a.nodes a.references fields
  textAt?_eq : ∀ name, drops skipped name = false → textAt? others name = textAt? fields name
  unique : ∀ field ∈ others, field.2.hasUniqueKeys = true

section Steps

variable {a : Frontier} {fields others written : List (String × Json)}

theorem ReproducesItems.array {items others : List Json}
    (h : conventions.ReproducesItems a items others) :
    conventions.Reproduces a (.array items) (.array others) where
  harvest_eq := by rw [harvest, harvest, h.harvest_eq]
  asString?_eq := rfl
  unique := (Json.hasUniqueKeys_array _).mpr h.unique

theorem ReproducesItems.cons {item other : Json} {rest others : List Json}
    (hitem : conventions.Reproduces a item other)
    (hrest : conventions.ReproducesItems
      ((conventions.harvest a.nodes a.references item).frontier a) rest others) :
    conventions.ReproducesItems a (item :: rest) (other :: others) where
  harvest_eq := by
    rw [harvestItems_cons, harvestItems_cons, hitem.harvest_eq, hrest.harvest_eq]
  unique := List.forall_mem_cons.mpr ⟨hitem.unique, hrest.unique⟩

theorem ReproducesFields.cons_of_dropped {skipped : Option String} {name : String}
    (hname : drops skipped name = true) (value : Json)
    (h : conventions.ReproducesFields skipped a fields others) :
    conventions.ReproducesFields skipped a ((name, value) :: fields) others where
  harvest_eq := by rw [harvestFields_cons_of_dropped _ _ _ _ hname, h.harvest_eq]
  textAt?_eq key hkey := by
    have hne : name ≠ key := by
      rintro rfl
      exact absurd (hname.symm.trans hkey) (by decide)
    rw [h.textAt?_eq key hkey, textAt?, textAt?, Json.lookup_cons, if_neg hne]
  unique := h.unique

theorem ReproducesFields.cons_of_kept {skipped : Option String} {name : String} {value other : Json}
    (hname : drops skipped name = false) (hvalue : conventions.Reproduces a value other)
    (hrest : conventions.ReproducesFields skipped
      ((conventions.harvest a.nodes a.references value).frontier a) fields others) :
    conventions.ReproducesFields skipped a ((name, value) :: fields) ((name, other) :: others) where
  harvest_eq := by
    rw [harvestFields_cons_of_kept _ _ _ _ hname, harvestFields_cons_of_kept _ _ _ _ hname,
      hvalue.harvest_eq, hrest.harvest_eq]
  textAt?_eq key hkey := by
    have hsame := hrest.textAt?_eq key hkey
    simp only [textAt?] at hsame
    simp only [textAt?, Json.lookup_cons]
    split
    · exact hvalue.asString?_eq
    · exact hsame
  unique := List.forall_mem_cons.mpr ⟨hvalue.unique, hrest.unique⟩

theorem ReproducesFields.reference {path : String}
    (hclass : conventions.classify fields = .reference path)
    (h : conventions.ReproducesFields (some conventions.refField) a fields others)
    (hwritten : Written conventions.refField (some path) others written) :
    conventions.Reproduces a (.object fields) (.object written) where
  harvest_eq := by
    have hagain : conventions.classify written = .reference path := by
      rw [classify_eq_reference_iff, textAt?, hwritten.lookup_mark]
      rfl
    rw [harvest, harvest, hclass, hagain]
    simp only [conventions.harvestFields_written hwritten a, h.harvest_eq]
  asString?_eq := rfl
  unique := hwritten.hasUniqueKeys h.unique

theorem ReproducesFields.node {kind : String} (hclass : conventions.classify fields = .node kind)
    (marks : conventions.MarksKept)
    (h : conventions.ReproducesFields (some conventions.typeField) ⟨a.nodes + 1, a.references⟩
      fields others)
    (hwritten : Written conventions.typeField (some kind) others written) :
    conventions.Reproduces a (.object fields) (.object written) where
  harvest_eq := by
    obtain ⟨hnone, hkind⟩ := classify_eq_node_iff.mp hclass
    -- One name cannot be both marks, for there is text under just one of them.
    have hne : conventions.refField ≠ conventions.typeField := by
      intro hsame
      rw [hsame, hkind] at hnone
      exact absurd hnone (by simp)
    have hkept : drops (some conventions.typeField) conventions.refField = false := by
      simp [drops, marks.refField, hne]
    have hagain : conventions.classify written = .node kind := by
      rw [classify_eq_node_iff, textAt?, textAt?, hwritten.lookup_mark,
        hwritten.lookup_of_ne hne marks.refField]
      exact ⟨(h.textAt?_eq _ hkept).trans hnone, rfl⟩
    have hwrittenAgain := conventions.harvestFields_written hwritten ⟨a.nodes + 1, a.references⟩
    rw [harvest, harvest, hclass, hagain]
    simp only [hwrittenAgain, h.harvest_eq]
  asString?_eq := rfl
  unique := hwritten.hasUniqueKeys h.unique

theorem ReproducesFields.record (hclass : conventions.classify fields = .record)
    (marks : conventions.MarksKept) (h : conventions.ReproducesFields none a fields others)
    (hnodup : (others.map Prod.fst).Nodup) :
    conventions.Reproduces a (.object fields) (.object others) where
  harvest_eq := by
    have hagain : conventions.classify others = .record := by
      rw [← hclass]
      exact classify_congr (h.textAt?_eq _ (by simp [drops, marks.refField]))
        (h.textAt?_eq _ (by simp [drops, marks.typeField]))
    rw [harvest, harvest, hclass, hagain]
    simp only [h.harvest_eq]
  asString?_eq := rfl
  unique := (Json.hasUniqueKeys_object _).mpr ⟨hnodup, h.unique⟩

end Steps

/-- JSON and what is rendered of its value are harvested alike. -/
theorem reproduces_composes (marks : conventions.MarksKept) :
    conventions.Composes conventions.Reproduces conventions.ReproducesItems
      conventions.ReproducesFields where
  null _ := ⟨rfl, rfl, rfl⟩
  bool _ _ := ⟨rfl, rfl, rfl⟩
  number _ _ := ⟨rfl, rfl, rfl⟩
  string _ _ := ⟨rfl, rfl, rfl⟩
  array h := h.array
  reference hclass h hwritten := h.reference hclass hwritten
  node hclass h hwritten := h.node hclass marks hwritten
  record hclass h hnodup := h.record hclass marks hnodup
  nil _ := ⟨rfl, fun _ h => absurd h List.not_mem_nil⟩
  cons := .cons
  noFields _ _ := ⟨rfl, fun _ _ => rfl, fun _ h => absurd h List.not_mem_nil⟩
  dropped hname h := h.cons_of_dropped hname _
  kept := .cons_of_kept

end Conventions

namespace LinkedTree

variable {tree : LinkedTree}

/-- Rendering a linked tree gives an object that is built into the same tree. -/
theorem build_rendered (marks : tree.conventions.MarksKept) {fields : List (String × Json)}
    (unique : (Json.object fields).hasUniqueKeys = true)
    (hbuilt : tree.unlinked = tree.conventions.build fields) :
    ∃ written, tree.toJson = .object written ∧ (Json.object written).hasUniqueKeys = true ∧
      tree.conventions.build written = tree.conventions.build fields := by
  obtain ⟨others, written, hjson, hfields, hwritten⟩ :=
    composes_root (Conventions.reproduces_composes marks) marks unique hbuilt
  have hkind : Conventions.textAt? written tree.conventions.typeField =
      Conventions.textAt? fields tree.conventions.typeField := by
    rw [Conventions.textAt?, hwritten.lookup_mark]
    cases Conventions.textAt? fields tree.conventions.typeField <;> rfl
  have hagain := (tree.conventions.harvestFields_written hwritten ⟨1, 0⟩).trans hfields.harvest_eq
  refine ⟨written, hjson, hwritten.hasUniqueKeys hfields.unique, ?_⟩
  rw [Conventions.textAt?, Conventions.textAt?] at hkind
  simp only [Conventions.build, hkind, hagain]

/-- **Linking the JSON of a linked tree gives the tree back.** -/
theorem ofJson_toJson (conventions : Conventions) (marks : conventions.MarksKept)
    (fields : List (String × Json)) (unique : (Json.object fields).hasUniqueKeys = true) :
    ∃ tree, ofJson conventions (.object fields) = .ok tree ∧ tree.toJson.hasUniqueKeys = true ∧
      ofJson conventions tree.toJson = .ok tree := by
  have hunlinked := (conventions.build fields).unlinked_link
  have hconventions : (conventions.build fields).link.conventions = conventions :=
    conventions_eq_of_unlinked_eq hunlinked
  have hbuilt := hunlinked.trans (conventions.unlinked_build fields)
  have hrendered := @build_rendered (conventions.build fields).link
  rw [hconventions] at hrendered
  obtain ⟨written, hjson, hwritten, hagain⟩ := hrendered marks unique hbuilt
  refine ⟨_, ofJson_object conventions fields, by rw [hjson]; exact hwritten, ?_⟩
  rw [hjson, ofJson_object, hagain]

theorem ofJson_toJson_nested :
    Conventions.MarksKept {} ∧ (Json.object nestedDocument).hasUniqueKeys = true ∧
      ∃ tree, ofJson {} (.object nestedDocument) = .ok tree ∧ tree.toJson.hasUniqueKeys = true ∧
        ofJson {} tree.toJson = .ok tree :=
  ⟨Conventions.marksKept_default, by decide,
    ofJson_toJson {} Conventions.marksKept_default nestedDocument (by decide)⟩

end LinkedTree

end EditorBridge
