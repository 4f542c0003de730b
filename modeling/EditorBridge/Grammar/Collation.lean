import EditorBridge.Unicode.Character
/-!
The order of keyword and operator lists: punctuation before symbols, symbols before digits, digits
before letters, the case of ASCII letters only breaking ties.  This is not the order of code points:
a comma stands before a plus sign.
-/

set_option autoImplicit false

namespace EditorBridge.Collation

/-! ## Weights -/

/-- Punctuation and symbols in collation order. -/
def punctuation : List Char := "_-,;:!?.'\"()[]\x7b\x7d@*/\\&#%`^+<=>|~$".toList

def whitespaceWeight : Nat := 0

/-- The weight of the first punctuation character. -/
def punctuationBase : Nat := 16

def digitBase : Nat := 64

def letterBase : Nat := 80

/-- Added to the code points of all other characters. -/
def otherBase : Nat := 128

/-- The weight of a character before case is looked at. -/
def primary (c : Char) : Nat :=
  if Character.isWhitespace c then whitespaceWeight
  else
    match punctuation.idxOf? c with
    | some index => punctuationBase + index
    | none =>
      if c.isDigit then digitBase + (c.toNat - '0'.toNat)
      else if c.isAlpha then letterBase + (c.toLower.toNat - 'a'.toNat)
      else otherBase + c.toNat

/-- The weight of case: lowercase before uppercase. -/
def tertiary (c : Char) : Nat := if Character.isUppercase c then 1 else 0

/-! ## Comparison -/

/-- Lexicographic comparison: the first difference decides, a list stands before its extensions. -/
def lexicographic : List Nat → List Nat → Ordering
  | [], [] => .eq
  | [], _ :: _ => .lt
  | _ :: _, [] => .gt
  | a :: as, b :: bs => (compare a b).then (lexicographic as bs)

/-- Compares by weight, then by case, then by code point. -/
def compare (a b : String) : Ordering :=
  (lexicographic (a.toList.map primary) (b.toList.map primary)).then <|
    (lexicographic (a.toList.map tertiary) (b.toList.map tertiary)).then <|
      lexicographic (a.toList.map Char.toNat) (b.toList.map Char.toNat)

/-- Whether the first text may stand before the second. -/
def atMost (a b : String) : Bool := compare a b != .gt

/-- The texts in collation order. -/
def sort (texts : List String) : List String := texts.mergeSort atMost

end EditorBridge.Collation
