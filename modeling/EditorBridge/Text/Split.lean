/-!
Splitting texts at a character: into all pieces between its occurrences, or in two at the last one.
-/

set_option autoImplicit false

namespace EditorBridge.Text

/-- The pieces of a text between occurrences of a character.  There is always at least one. -/
def splitOn (separator : Char) : List Char → List (List Char)
  | [] => [[]]
  | c :: rest =>
    if c = separator then [] :: splitOn separator rest
    else
      match splitOn separator rest with
      | [] => [[c]]
      | piece :: pieces => (c :: piece) :: pieces

/-- The parts of a text before and after the last occurrence of a character. -/
def splitAtLast (marker : Char) : List Char → Option (List Char × List Char)
  | [] => none
  | c :: rest =>
    match splitAtLast marker rest with
    | some (before, after) => some (c :: before, after)
    | none => if c = marker then some ([], rest) else none

theorem splitOn_ne_nil (separator : Char) (text : List Char) : splitOn separator text ≠ [] := by
  cases text with
  | nil => simp [splitOn]
  | cons c rest =>
    rw [splitOn]
    split
    · simp
    · split <;> simp

/-- A separator between two texts separates their pieces. -/
theorem splitOn_append (separator : Char) (a b : List Char) :
    splitOn separator (a ++ separator :: b) = splitOn separator a ++ splitOn separator b := by
  induction a with
  | nil => simp [splitOn]
  | cons c rest ih =>
    rw [List.cons_append, splitOn, splitOn, ih]
    split
    · rfl
    · cases h : splitOn separator rest with
      | nil => exact absurd h (splitOn_ne_nil separator rest)
      | cons piece pieces => rfl

/-- The pieces are those of the standard library's splitting. -/
theorem splitOn_eq (separator : Char) (text : List Char) :
    splitOn separator text = text.splitOn separator := by
  induction text with
  | nil => simp [splitOn]
  | cons c rest ih =>
    rw [splitOn, List.splitOn_cons_eq_if_modifyHead, ih]
    by_cases h : c = separator
    · simp [h]
    · cases hpieces : rest.splitOn separator with
      | nil => exact absurd hpieces (List.splitOn_ne_nil separator rest)
      | cons piece pieces => simp [h]

theorem splitAtLast_of_not_mem {marker : Char} {text : List Char} (h : marker ∉ text) :
    splitAtLast marker text = none := by
  induction text with
  | nil => rfl
  | cons c rest ih =>
    rw [List.mem_cons, not_or] at h
    have hc : c ≠ marker := Ne.symm h.1
    simp only [splitAtLast, ih h.2, if_neg hc]

/-- What has no marker in it comes after the last marker. -/
theorem splitAtLast_append {marker : Char} (before : List Char) {after : List Char}
    (h : marker ∉ after) : splitAtLast marker (before ++ marker :: after) = some (before, after) := by
  induction before with
  | nil => simp [splitAtLast, splitAtLast_of_not_mem h]
  | cons c rest ih => simp [splitAtLast, ih]

end EditorBridge.Text
