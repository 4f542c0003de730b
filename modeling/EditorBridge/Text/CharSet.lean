/-!
Sets of characters as lists of inclusive ranges of code points.  Ranges may overlap and stand in any
order; every operation is described by its effect on membership.  `CharSet.ofTable` reads the
written form in which the Unicode tables of this library are kept.
-/

set_option autoImplicit false

namespace EditorBridge

/-- The code points from `low` to `high`, both included. -/
structure CharRange where
  low : Nat
  high : Nat
deriving DecidableEq, Repr, Inhabited

/-- A set of code points, the union of its ranges. -/
abbrev CharSet := List CharRange

namespace CharRange

def contains (range : CharRange) (code : Nat) : Bool := range.low ≤ code && code ≤ range.high

/-- What is left of the range once another one is taken away. -/
def minus (range taken : CharRange) : CharSet :=
  if taken.high < range.low || range.high < taken.low then [range]
  else
    (if range.low < taken.low then [⟨range.low, taken.low - 1⟩] else []) ++
    (if taken.high < range.high then [⟨taken.high + 1, range.high⟩] else [])

theorem contains_iff {range : CharRange} {code : Nat} :
    range.contains code = true ↔ range.low ≤ code ∧ code ≤ range.high := by
  simp [contains]

end CharRange

namespace CharSet

/-! ## Membership -/

def contains (set : CharSet) (code : Nat) : Bool := set.any (·.contains code)

def has (set : CharSet) (c : Char) : Bool := set.contains c.toNat

def singleton (c : Char) : CharSet := [⟨c.toNat, c.toNat⟩]

def between (first last : Char) : CharSet := [⟨first.toNat, last.toNat⟩]

def full : CharSet := [⟨0, 0x10FFFF⟩]

def ascii : CharSet := [⟨0, 0x7F⟩]

/-! ## Operations -/

/-- The code points of `set` outside one range. -/
def minusRange (set : CharSet) (taken : CharRange) : CharSet := set.flatMap (·.minus taken)

def difference (a b : CharSet) : CharSet := b.foldl minusRange a

def complement (set : CharSet) : CharSet := difference full set

def union (a b : CharSet) : CharSet := a ++ b

def intersection (a b : CharSet) : CharSet := difference a (difference a b)

/-- The code points in exactly one of the sets. -/
def symmetricDifference (a b : CharSet) : CharSet := difference a b ++ difference b a

/-- Whether all members are below 128. -/
def isAscii (set : CharSet) : Bool := set.all fun range => range.high < 0x80 || range.high < range.low

def isEmpty (set : CharSet) : Bool := set.all fun range => range.high < range.low

/-- Joins a range with those that follow it and overlap or touch it. -/
def joinFrom (range : CharRange) : CharSet → CharSet
  | [] => [range]
  | next :: rest =>
    if next.low ≤ range.high + 1 then joinFrom ⟨range.low, max range.high next.high⟩ rest
    else range :: joinFrom next rest

/-- The same set with as few ranges as possible, in order. -/
def normal (set : CharSet) : CharSet :=
  match (set.filter fun range => range.low ≤ range.high).mergeSort fun a b => a.low ≤ b.low with
  | [] => []
  | range :: rest => joinFrom range rest

/-! ## Membership after an operation -/

theorem contains_nil (code : Nat) : contains [] code = false := rfl

theorem contains_cons (range : CharRange) (set : CharSet) (code : Nat) :
    contains (range :: set) code = (range.contains code || contains set code) := rfl

theorem contains_union (a b : CharSet) (code : Nat) :
    (union a b).contains code = (a.contains code || b.contains code) := by
  simp [union, contains]

theorem contains_minus (range taken : CharRange) (code : Nat) :
    contains (range.minus taken) code = (range.contains code && !taken.contains code) := by
  rw [Bool.eq_iff_iff]
  unfold CharRange.minus
  split
  · rename_i h
    simp only [Bool.or_eq_true, decide_eq_true_eq] at h
    simp [contains, CharRange.contains]
    omega
  · rename_i h
    simp only [Bool.or_eq_true, decide_eq_true_eq, not_or] at h
    split <;> split <;> simp [contains, CharRange.contains] <;> omega

theorem contains_minusRange (set : CharSet) (taken : CharRange) (code : Nat) :
    (minusRange set taken).contains code = (set.contains code && !taken.contains code) := by
  induction set with
  | nil => rfl
  | cons range rest ih =>
    have split : contains (minusRange (range :: rest) taken) code
        = (contains (range.minus taken) code || contains (minusRange rest taken) code) := by
      simp [minusRange, contains]
    rw [split, contains_minus, ih, contains_cons, Bool.and_or_distrib_right]

theorem contains_difference (a b : CharSet) (code : Nat) :
    (difference a b).contains code = (a.contains code && !b.contains code) := by
  induction b generalizing a with
  | nil => simp [difference, contains_nil]
  | cons range rest ih =>
    have step : difference a (range :: rest) = difference (minusRange a range) rest := rfl
    rw [step, ih, contains_minusRange, contains_cons, Bool.not_or, Bool.and_assoc]

theorem contains_intersection (a b : CharSet) (code : Nat) :
    (intersection a b).contains code = (a.contains code && b.contains code) := by
  rw [intersection, contains_difference, contains_difference]
  cases a.contains code <;> cases b.contains code <;> rfl

/-! ## Written form -/

def hexDigit? (c : Char) : Option Nat :=
  if '0' ≤ c ∧ c ≤ '9' then some (c.toNat - '0'.toNat)
  else if 'A' ≤ c ∧ c ≤ 'F' then some (c.toNat - 'A'.toNat + 10)
  else if 'a' ≤ c ∧ c ≤ 'f' then some (c.toNat - 'a'.toNat + 10)
  else none

/-- Reads ranges such as `41-5A 61-7A AA`.  `low` is the first half of a range whose second half is
being read, `value` the number read so far. -/
def readRanges (low : Option Nat) (value : Option Nat) : List Char → CharSet
  | [] => finish low value
  | c :: rest =>
    match hexDigit? c with
    | some digit => readRanges low (some (value.getD 0 * 16 + digit)) rest
    | none =>
      if c = '-' then readRanges value none rest
      else finish low value ++ readRanges none none rest
where
  /-- The range that ends here, if any. -/
  finish (low : Option Nat) (value : Option Nat) : CharSet :=
    match value with
    | none => []
    | some high => [⟨low.getD high, high⟩]

/-- The set a table describes: hexadecimal code points and ranges, separated by blanks. -/
def ofTable (table : String) : CharSet := readRanges none none table.toList

/-- The set that tables hold under a name, which is the first one with that name. -/
def named? (tables : List (List String × String)) (name : String) : Option CharSet :=
  (tables.find? fun entry => entry.1.contains name).map fun entry => ofTable entry.2

end CharSet

end EditorBridge
