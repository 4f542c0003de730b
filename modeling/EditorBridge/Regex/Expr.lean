import EditorBridge.Text.CharSet
/-!
Regular expressions with every switch applied.  An expression is built over two types, one for what
a single character is tested by and one for what a place in a text is tested by, so that the same
shape serves a pattern (sets of characters) and a pattern laid over a text (sets of positions).
-/

set_option autoImplicit false

namespace EditorBridge.Regex

/-- The kinds of word boundary. -/
inductive Boundary
  | word | notWord | start | stop | startHalf | stopHalf
deriving DecidableEq, Repr

/-- What a place in a text can be asked for.  `crlf` says whether a carriage return ends a line too,
`unicode` whether words may hold characters outside ASCII. -/
inductive Look
  | startText
  | endText
  | startLine (crlf : Bool)
  | endLine (crlf : Bool)
  | boundary (kind : Boundary) (unicode : Bool)
deriving DecidableEq, Repr

/-- An expression over tests of characters and of places. -/
inductive Expr (Chars Places : Type)
  | empty
  | one (chars : Chars)
  | look (places : Places)
  | concat (first second : Expr Chars Places)
  | alternate (first second : Expr Chars Places)
  | iterate (least : Nat) (most : Option Nat) (greedy : Bool) (body : Expr Chars Places)

/-- An expression over sets of characters. -/
abbrev Pattern : Type := Expr CharSet Look

namespace Expr

variable {Chars Places Chars' Places' : Type}

/-- Replaces the tests and keeps the shape. -/
def map (f : Chars → Chars') (g : Places → Places') : Expr Chars Places → Expr Chars' Places'
  | empty => empty
  | one chars => one (f chars)
  | look places => look (g places)
  | concat first second => concat (first.map f g) (second.map f g)
  | alternate first second => alternate (first.map f g) (second.map f g)
  | iterate least most greedy body => iterate least most greedy (body.map f g)

/-- Whether the expression can match more than the empty text. -/
def consumes : Expr Chars Places → Bool
  | empty => false
  | one _ => true
  | look _ => false
  | concat first second => first.consumes || second.consumes
  | alternate first second => first.consumes || second.consumes
  | iterate _ most _ body => body.consumes && most != some 0

end Expr

end EditorBridge.Regex
