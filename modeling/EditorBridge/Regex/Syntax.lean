/-!
Syntax trees of regular expressions, as they are written: groups, flags, classes and escapes are kept
apart, and nothing is resolved yet.
-/

set_option autoImplicit false

namespace EditorBridge.Regex

/-- The switches of a regular expression. -/
inductive Flag
  | caseInsensitive
  | multiLine
  | dotMatchesNewLine
  | swapGreed
  | unicode
  | crlf
  | ignoreWhitespace
deriving DecidableEq, Repr

/-- Switches turned on or off, in the order written. -/
abbrev FlagChange : Type := List (Flag × Bool)

/-- A literal character.  One written as `\x` with two digits may stand for a byte. -/
structure Literal where
  char : Char
  isByte : Bool := false
deriving DecidableEq, Repr

/-- The classes that have a one-letter escape. -/
inductive ShortClass
  | digit | space | word
deriving DecidableEq, Repr

/-- The places an expression can ask for. -/
inductive Assertion
  | startLine | endLine | startText | endText
  | wordBoundary | notWordBoundary
  | wordStart | wordEnd | wordStartHalf | wordEndHalf
deriving DecidableEq, Repr

/-- A class of characters asked for by name: one name, or a property and its value. -/
inductive PropertyQuery
  | named (name : String)
  | valued (property value : String)
deriving DecidableEq, Repr

/-- The classes of ASCII characters that have a name in brackets. -/
inductive AsciiClass
  | alnum | alpha | ascii | blank | cntrl | digit | graph | lower | print | punct | space | upper
  | word | xdigit
deriving DecidableEq, Repr

/-- The operations between sets in brackets. -/
inductive SetOperator
  | intersection | difference | symmetricDifference
deriving DecidableEq, Repr

mutual
/-- A member of a class in brackets. -/
inductive ClassItem
  | literal (literal : Literal)
  | range (first last : Literal)
  | ascii (kind : AsciiClass) (negated : Bool)
  | short (kind : ShortClass) (negated : Bool)
  | property (query : PropertyQuery) (negated : Bool)
  | bracketed (negated : Bool) (set : ClassSet)

/-- The content of brackets. -/
inductive ClassSet
  | union (items : List ClassItem)
  | operation (operator : SetOperator) (left right : ClassSet)
end

/-- A regular expression as written. -/
inductive Ast
  | empty
  | flags (change : FlagChange)
  | literal (literal : Literal)
  | dot
  | assertion (assertion : Assertion)
  | short (kind : ShortClass) (negated : Bool)
  | property (query : PropertyQuery) (negated : Bool)
  | bracketed (negated : Bool) (set : ClassSet)
  | repetition (least : Nat) (most : Option Nat) (greedy : Bool) (body : Ast)
  | group (change : FlagChange) (body : Ast)
  | concat (parts : List Ast)
  | alternation (branches : List Ast)
deriving Inhabited

namespace Ast

/-- Parts one after the other. -/
def ofParts : List Ast → Ast
  | [] => empty
  | [part] => part
  | parts => concat parts

/-- Branches beside each other. -/
def ofBranches : List Ast → Ast
  | [] => empty
  | [branch] => branch
  | branches => alternation branches

end Ast

/-! ## Nesting -/

mutual
/-- How deeply a member of a class is nested. -/
def ClassItem.depth : ClassItem → Nat
  | .bracketed _ set => set.depth + 1
  | _ => 0
termination_by structural item => item

/-- The greatest nesting of members. -/
def ClassItem.depthList : List ClassItem → Nat
  | [] => 0
  | item :: rest => max item.depth (ClassItem.depthList rest)
termination_by structural items => items

/-- How deeply the content of brackets is nested; a union of one member is that member. -/
def ClassSet.depth : ClassSet → Nat
  | .union items => ClassItem.depthList items + (if items.length ≤ 1 then 0 else 1)
  | .operation _ left right => max left.depth right.depth + 1
termination_by structural set => set
end

mutual
/-- How deeply an expression is nested. -/
def Ast.depth : Ast → Nat
  | .bracketed _ set => set.depth + 1
  | .repetition _ _ _ body => body.depth + 1
  | .group _ body => body.depth + 1
  | .concat parts => Ast.depthList parts + 1
  | .alternation branches => Ast.depthList branches + 1
  | _ => 0
termination_by structural ast => ast

/-- The greatest nesting of expressions. -/
def Ast.depthList : List Ast → Nat
  | [] => 0
  | ast :: rest => max ast.depth (Ast.depthList rest)
termination_by structural asts => asts
end

end EditorBridge.Regex
