import EditorBridge.Unicode.Character
/-!
The literal text that a pattern starts and ends with.  The pattern is read one character at a time
into a list of atoms, each a literal character or something else; a quantifier turns the atom before
it into something else.
-/

set_option autoImplicit false

namespace EditorBridge

/-- The literal text around the first and last atom of a pattern that is not literal. -/
structure Delimiters where
  opening : String
  closing : String
deriving DecidableEq, Repr, Inhabited

namespace Delimiters

def none : Delimiters := ⟨"", ""⟩

/-- Whether both delimiters are there and differ. -/
def isDelimited (delimiters : Delimiters) : Bool :=
  delimiters.opening != "" && delimiters.closing != "" && delimiters.opening != delimiters.closing

/-! ## Atoms -/

/-- An atom of a pattern. -/
inductive Atom
  | literal (c : Char)
  | other
deriving DecidableEq, Repr

def Atom.char? : Atom → Option Char
  | literal c => some c
  | other => Option.none

/-- What the next character of a pattern belongs to. -/
inductive Mode
  /-- An atom of its own. -/
  | plain
  /-- A quantifier that has just ended and may have a suffix. -/
  | quantified
  /-- An escape. -/
  | escaped
  /-- A class whose bracket has just been opened. -/
  | classOpened
  /-- A class that may start with a bracket as a member. -/
  | classStart
  /-- A class. -/
  | inClass
  /-- An escape in a class. -/
  | escapedInClass
  /-- A counted quantifier. -/
  | counted
deriving DecidableEq, Repr

/-- A pattern being read: the atoms found so far, the last one first, and how deep parentheses are
nested.  An alternation outside of all parentheses ends the reading. -/
structure Scan where
  mode : Mode := .plain
  atoms : List Atom := []
  depth : Nat := 0
  alternation : Bool := false
deriving DecidableEq, Repr

namespace Scan

def push (scan : Scan) (atom : Atom) : Scan := { scan with mode := .plain, atoms := atom :: scan.atoms }

/-- Applies a quantifier to the last atom. -/
def quantify (scan : Scan) : Scan :=
  match scan.atoms with
  | [] => { scan with mode := .quantified }
  | _ :: atoms => { scan with mode := .quantified, atoms := .other :: atoms }

/-- The atom of an escape. -/
def escapeAtom (c : Char) : Atom :=
  if c = 'n' then .literal '\n'
  else if c = 't' then .literal '\t'
  else if c = 'r' then .literal '\r'
  else if Character.isAlphanumeric c then .other
  else .literal c

/-- Reads a character that starts an atom or a quantifier. -/
def start (scan : Scan) (c : Char) : Scan :=
  if c = '\\' then { scan with mode := .escaped }
  else if c = '[' then { scan.push .other with mode := .classOpened }
  else if c = '(' then { scan.push .other with depth := scan.depth + 1 }
  else if c = ')' then { scan.push .other with depth := scan.depth - 1 }
  else if c = '|' then
    if scan.depth = 0 then { scan with alternation := true } else scan.push .other
  else if c = '*' || c = '+' || c = '?' then scan.quantify
  else if c = '{' then { scan with mode := .counted }
  else if c = '.' || c = '^' || c = '$' then scan.push .other
  else scan.push (.literal c)

/-- Reads a character inside a class. -/
def classChar (scan : Scan) (c : Char) : Scan :=
  if c = '\\' then { scan with mode := .escapedInClass }
  else if c = ']' then { scan with mode := .plain }
  else { scan with mode := .inClass }

/-- Reads one character. -/
def step (scan : Scan) (c : Char) : Scan :=
  if scan.alternation then scan
  else
    match scan.mode with
    | .plain => scan.start c
    | .quantified => if c = '?' || c = '+' then { scan with mode := .plain } else scan.start c
    | .escaped => scan.push (escapeAtom c)
    | .classOpened =>
      if c = '^' then { scan with mode := .classStart }
      else if c = ']' then { scan with mode := .inClass }
      else scan.classChar c
    | .classStart => if c = ']' then { scan with mode := .inClass } else scan.classChar c
    | .inClass => scan.classChar c
    | .escapedInClass => { scan with mode := .inClass }
    | .counted => if c = '}' then scan.quantify else scan

/-- Ends the reading: an open escape is an atom, an open counted quantifier applies. -/
def finish (scan : Scan) : Scan :=
  match scan.mode with
  | .escaped => scan.push .other
  | .counted => scan.quantify
  | _ => scan

end Scan

/-- The literal characters at the front of a list of atoms. -/
def literals : List Atom → List Char
  | .literal c :: rest => c :: literals rest
  | _ => []

/-- The delimiters of a pattern.  A pattern with an alternation outside of all parentheses has none;
a pattern that is one literal has it as its opening delimiter. -/
def ofPattern (pattern : String) : Delimiters :=
  let scan := (pattern.toList.foldl Scan.step {}).finish
  if scan.alternation then none
  else
    let atoms := scan.atoms.reverse
    let opening := literals atoms
    if opening.length = atoms.length then ⟨String.ofList opening, ""⟩
    else ⟨String.ofList opening, String.ofList (literals scan.atoms).reverse⟩

end Delimiters

end EditorBridge
