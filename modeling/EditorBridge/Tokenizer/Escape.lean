import EditorBridge.Unicode.Character
/-!
Literal text inside patterns: escaped so that a pattern matches just that text, or gathered into the
body of a character class.
-/

set_option autoImplicit false

namespace EditorBridge.Pattern

/-- Characters that have a meaning of their own in a pattern. -/
def metacharacters : List Char :=
  ['\\', '^', '$', '.', '|', '?', '*', '+', '(', ')', '[', ']', '{', '}', '/']

/-- One character of a literal in a pattern. -/
def escapeChar (c : Char) : List Char := if metacharacters.contains c then ['\\', c] else [c]

theorem escapeChar_of_mem {c : Char} (h : c ∈ metacharacters) : escapeChar c = ['\\', c] :=
  if_pos (List.contains_iff_mem.mpr h)

theorem escapeChar_of_not_mem {c : Char} (h : c ∉ metacharacters) : escapeChar c = [c] :=
  if_neg fun hcontains => h (List.contains_iff_mem.mp hcontains)

def escape (literal : String) : String := String.ofList (literal.toList.flatMap escapeChar)

/-- The distinct characters of a text, each at its first place; `seen` are the ones before. -/
def distinct (seen : List Char) : List Char → List Char
  | [] => []
  | c :: rest => if seen.contains c then distinct seen rest else c :: distinct (c :: seen) rest

def classMember (c : Char) : List Char :=
  if Character.isAlphanumeric c || c == '_' then [c] else ['\\', c]

/-- The body of a character class with just the characters of a text. -/
def classBody (members : String) : String :=
  String.ofList ((distinct [] members.toList).flatMap classMember)

end EditorBridge.Pattern
