import EditorBridge.Grammar.Basic
import EditorBridge.Regex.Compile
import EditorBridge.Tokenizer.Description
/-!
Terminals as the tokenizer sees them: their patterns, where each of them belongs, and the class of
the tokens it makes.
-/

set_option autoImplicit false

namespace EditorBridge

/-- The pattern of a terminal, compiled to be found anywhere and to be matched in full. -/
structure TerminalPattern where
  source : String
  search : Regex.Pattern
  full : Regex.Pattern

namespace TerminalPattern

/-- The text of the pattern that matches only whole texts. -/
def anchored (source : String) : String := "^(?:" ++ source ++ ")$"

/-- Compiles the pattern of a terminal.  Both forms must be correct. -/
def compile (source : String) : Except Regex.CompileError TerminalPattern := do
  let search ← Regex.compile source
  let full ← Regex.compile (anchored source)
  return { source, search, full }

def isMatch (pattern : TerminalPattern) (text : String) : Bool := pattern.search.isMatch text

def isFullMatch (pattern : TerminalPattern) (text : String) : Bool := pattern.full.isMatch text

def matchesBlank (pattern : TerminalPattern) : Bool := pattern.isMatch ""

def matchesSpace (pattern : TerminalPattern) : Bool := pattern.isFullMatch " "

end TerminalPattern

/-- The places a terminal can have in a tokenizer. -/
inductive TerminalClass
  | whitespace
  | comment
  | token
deriving DecidableEq, Repr

namespace TerminalClass

/-- The place of a terminal, if there is one for it: a hidden terminal is white space or a comment, and
one that matches blank text cannot make tokens. -/
def classify (hidden : Bool) (pattern : TerminalPattern) : Option TerminalClass :=
  if hidden && !pattern.matchesSpace then some comment
  else if !hidden && pattern.matchesBlank then none
  else if pattern.matchesSpace then some whitespace
  else some token

end TerminalClass

/-- The class of the tokens of a terminal: its declared type or else its name, but terminals named like
strings make strings whatever their type. -/
def Rule.tokenClass (rule : Rule) : String :=
  if rule.name.toLower = Tokenizer.stringToken then Tokenizer.stringToken
  else rule.typeName.getD rule.name

end EditorBridge
