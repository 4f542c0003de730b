import EditorBridge.Proofs.Tree.Linking
/-!
Paths in two parts.  A separator between two texts separates their pieces, so the steps of a joined path are those
of its parts one after the other (`Conventions.segmentsOf_join`), whether or not the prefix, the separator and the
marker are told apart.  Steps are followed from left to right, so the second part goes on from the value that the
first part leads to (`LinkedTree.reach?_join`).
-/

set_option autoImplicit false

namespace EditorBridge

namespace Conventions

/-! ## Texts behind the prefix -/

/-- The path of a text: the prefix, and the text behind it. -/
def path (conventions : Conventions) (text : String) : String := conventions.pathPrefix.toString ++ text

/-- Two texts with a separator between them. -/
def join (conventions : Conventions) (a b : String) : String :=
  a ++ conventions.segmentSeparator.toString ++ b

/-- So many separators. -/
def separators (conventions : Conventions) (count : Nat) : String :=
  String.ofList (List.replicate count conventions.segmentSeparator)

/-- The steps of a joined path are those of its parts, and are absent if those of a part are. -/
structure SegmentsCompose (conventions : Conventions) : Prop where
  concatenates : ∀ a b, conventions.segments (conventions.path (conventions.join a b)) =
    do return (← conventions.segments (conventions.path a)) ++ (← conventions.segments (conventions.path b))
  absent_iff : ∀ a b, conventions.segments (conventions.path (conventions.join a b)) = none ↔
    conventions.segments (conventions.path a) = none ∨ conventions.segments (conventions.path b) = none

variable {conventions : Conventions}

theorem segments_path (text : String) :
    conventions.segments (conventions.path text) = conventions.segmentsOf text.toList := by
  simp [segments, path]

theorem join_toList (a b : String) :
    (conventions.join a b).toList = a.toList ++ conventions.segmentSeparator :: b.toList := by
  simp [join]

theorem separators_toList (count : Nat) :
    (conventions.separators count).toList = List.replicate count conventions.segmentSeparator :=
  String.toList_ofList

/-! ## Steps of a joined text -/

theorem segmentsOf_nil : conventions.segmentsOf [] = some [] := rfl

theorem segmentsOf_join (a b : List Char) :
    conventions.segmentsOf (a ++ conventions.segmentSeparator :: b) =
      do return (← conventions.segmentsOf a) ++ (← conventions.segmentsOf b) := by
  rw [segmentsOf, Text.splitOn_append, List.filter_append, List.mapM_append]
  rfl

theorem segmentsOf_separator_cons (text : List Char) :
    conventions.segmentsOf (conventions.segmentSeparator :: text) = conventions.segmentsOf text := by
  have hjoin := @segmentsOf_join conventions [] text
  rw [segmentsOf_nil] at hjoin
  simpa using hjoin

theorem segmentsOf_leading (count : Nat) (text : List Char) :
    conventions.segmentsOf (List.replicate count conventions.segmentSeparator ++ text) =
      conventions.segmentsOf text := by
  induction count with
  | zero => rfl
  | succ count ih => rw [List.replicate_succ, List.cons_append, segmentsOf_separator_cons, ih]

/-- Of separators in a row, all but the first are leading ones of the text behind them. -/
theorem segmentsOf_doubled (count : Nat) (a b : List Char) :
    conventions.segmentsOf (a ++ List.replicate (count + 1) conventions.segmentSeparator ++ b) =
      conventions.segmentsOf (a ++ conventions.segmentSeparator :: b) := by
  rw [List.append_assoc, List.replicate_succ, List.cons_append, segmentsOf_join, segmentsOf_join,
    segmentsOf_leading]

theorem segmentsOf_trailing (count : Nat) (text : List Char) :
    conventions.segmentsOf (text ++ List.replicate count conventions.segmentSeparator) =
      conventions.segmentsOf text := by
  cases count with
  | zero => simp
  | succ count =>
    have hdoubled := @segmentsOf_doubled conventions count text []
    rw [List.append_nil, segmentsOf_join, segmentsOf_nil] at hdoubled
    simpa using hdoubled

theorem segmentsCompose (conventions : Conventions) : conventions.SegmentsCompose where
  concatenates a b := by simp only [segments_path, join_toList, segmentsOf_join]
  absent_iff a b := by
    simp only [segments_path, join_toList, segmentsOf_join]
    cases conventions.segmentsOf a.toList <;> cases conventions.segmentsOf b.toList <;> simp

end Conventions

namespace LinkedTree

/-! ## Following the parts -/

/-- The value that a path leads to from a value. -/
def reach? (tree : LinkedTree) (value : Value) (path : String) : Option Value := do
  tree.follow? value (← tree.conventions.segments path)

/-- Separators that separate nothing do not matter, and the second part of a joined path is followed from the
value that the first part leads to. -/
structure ResolvesInParts (tree : LinkedTree) : Prop where
  leading : ∀ count text, tree.resolve? (tree.conventions.path (tree.conventions.separators count ++ text)) =
    tree.resolve? (tree.conventions.path text)
  trailing : ∀ count text, tree.resolve? (tree.conventions.path (text ++ tree.conventions.separators count)) =
    tree.resolve? (tree.conventions.path text)
  doubled : ∀ count a b,
    tree.resolve? (tree.conventions.path (a ++ tree.conventions.separators (count + 1) ++ b)) =
      tree.resolve? (tree.conventions.path (tree.conventions.join a b))
  continues : ∀ a b, tree.resolve? (tree.conventions.path (tree.conventions.join a b)) = do
    let reached ← tree.reach? (.node tree.root) (tree.conventions.path a)
    (← tree.reach? reached (tree.conventions.path b)).asNode?

variable {tree : LinkedTree}

theorem resolve?_eq_reach? (path : String) :
    tree.resolve? path = (tree.reach? (.node tree.root) path).bind Value.asNode? := by
  unfold resolve? reach?
  cases tree.conventions.segments path <;> rfl

theorem resolve?_eq_of_segments_eq {path other : String}
    (h : tree.conventions.segments path = tree.conventions.segments other) :
    tree.resolve? path = tree.resolve? other := by
  rw [resolve?, resolve?, h]

theorem follow?_append (value : Value) (steps steps' : List Conventions.Segment) :
    tree.follow? value (steps ++ steps') = (tree.follow? value steps).bind (tree.follow? · steps') :=
  List.foldlM_append

theorem reach?_join (value : Value) (a b : String) :
    tree.reach? value (tree.conventions.path (tree.conventions.join a b)) =
      (tree.reach? value (tree.conventions.path a)).bind (tree.reach? · (tree.conventions.path b)) := by
  unfold reach?
  rw [tree.conventions.segmentsCompose.concatenates]
  cases tree.conventions.segments (tree.conventions.path a) with
  | none => rfl
  | some steps =>
    cases tree.conventions.segments (tree.conventions.path b) with
    | none => simp
    | some steps' => exact follow?_append value steps steps'

theorem resolvesInParts (tree : LinkedTree) : tree.ResolvesInParts where
  leading count text := by
    apply resolve?_eq_of_segments_eq
    simp only [Conventions.segments_path, String.toList_append, Conventions.separators_toList,
      Conventions.segmentsOf_leading]
  trailing count text := by
    apply resolve?_eq_of_segments_eq
    simp only [Conventions.segments_path, String.toList_append, Conventions.separators_toList,
      Conventions.segmentsOf_trailing]
  doubled count a b := by
    apply resolve?_eq_of_segments_eq
    simp only [Conventions.segments_path, String.toList_append, Conventions.separators_toList,
      Conventions.join_toList, Conventions.segmentsOf_doubled]
  continues a b := by
    rw [resolve?_eq_reach?, reach?_join, Option.bind_assoc]
    rfl

/-- **Paths compose.**  Under all conventions, the steps of a joined path are those of its parts, and in the tree
of every document the second part of a path goes on where the first part leads. -/
theorem paths_compose (conventions : Conventions) (fields : List (String × Json)) :
    conventions.SegmentsCompose ∧ ∃ tree, ofJson conventions (.object fields) = .ok tree ∧
      tree.conventions = conventions ∧ tree.ResolvesInParts := by
  have hunlinked := (conventions.build fields).unlinked_link
  have hconventions : (conventions.build fields).link.conventions = conventions :=
    conventions_eq_of_unlinked_eq hunlinked
  exact ⟨conventions.segmentsCompose, _, ofJson_object conventions fields, hconventions, resolvesInParts _⟩

end LinkedTree

end EditorBridge
