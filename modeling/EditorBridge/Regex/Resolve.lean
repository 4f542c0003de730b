import EditorBridge.Regex.Expr
import EditorBridge.Regex.Property
import EditorBridge.Unicode.CaseFold
import EditorBridge.Unicode.Character
/-!
From an expression as written to a pattern: switches are applied, and classes become sets of
characters.  A pattern that could match half a character is refused, and so is a class by an unknown
name.
-/

set_option autoImplicit false

namespace EditorBridge.Regex

/-- The state of the switches. -/
structure Flags where
  caseInsensitive : Bool := false
  multiLine : Bool := false
  dotMatchesNewLine : Bool := false
  swapGreed : Bool := false
  unicode : Bool := true
  crlf : Bool := false
deriving DecidableEq, Repr

namespace Flags

/-- Turns one switch on or off. -/
def set (flags : Flags) : Flag × Bool → Flags
  | (.caseInsensitive, on) => { flags with caseInsensitive := on }
  | (.multiLine, on) => { flags with multiLine := on }
  | (.dotMatchesNewLine, on) => { flags with dotMatchesNewLine := on }
  | (.swapGreed, on) => { flags with swapGreed := on }
  | (.unicode, on) => { flags with unicode := on }
  | (.crlf, on) => { flags with crlf := on }
  | (.ignoreWhitespace, _) => flags

/-- Turns switches on and off. -/
def change (flags : Flags) (changes : FlagChange) : Flags := changes.foldl set flags

/-! ## Sets of characters -/

/-- Adds the other cases of the members of a set, where case is ignored. -/
def fold (flags : Flags) (set : CharSet) : CharSet :=
  if !flags.caseInsensitive then set
  else if flags.unicode then set.foldCase
  else set.foldAsciiCase

/-- A set, if a pattern may hold it: without Unicode all members are ASCII characters. -/
def permit (flags : Flags) (set : CharSet) : Option CharSet :=
  if flags.unicode || set.isAscii then some set else none

/-- A class with its other cases, negated where asked; cases come first. -/
def close (flags : Flags) (negated : Bool) (set : CharSet) : Option CharSet :=
  flags.permit (if negated then (flags.fold set).complement else flags.fold set)

/-- The character of a literal, which without Unicode is no byte beyond ASCII. -/
def literal (flags : Flags) (literal : Literal) : Option Char :=
  if !flags.unicode && literal.isByte && literal.char.toNat ≥ 0x80 then none
  else some literal.char

/-- The set of a literal outside brackets. -/
def literalSet (flags : Flags) (literal : Literal) : Option CharSet :=
  (flags.literal literal).map fun c => flags.fold (.singleton c)

/-- The set of a dot. -/
def dot (flags : Flags) : Option CharSet :=
  if !flags.unicode then none
  else if flags.dotMatchesNewLine then some .full
  else if flags.crlf then some (CharSet.complement [⟨0xA, 0xA⟩, ⟨0xD, 0xD⟩])
  else some (CharSet.complement [⟨0xA, 0xA⟩])

end Flags

/-- The members of a class of ASCII characters. -/
def AsciiClass.characters : AsciiClass → CharSet
  | alnum => [⟨0x30, 0x39⟩, ⟨0x41, 0x5A⟩, ⟨0x61, 0x7A⟩]
  | alpha => [⟨0x41, 0x5A⟩, ⟨0x61, 0x7A⟩]
  | ascii => [⟨0x00, 0x7F⟩]
  | blank => [⟨0x09, 0x09⟩, ⟨0x20, 0x20⟩]
  | cntrl => [⟨0x00, 0x1F⟩, ⟨0x7F, 0x7F⟩]
  | digit => [⟨0x30, 0x39⟩]
  | graph => [⟨0x21, 0x7E⟩]
  | lower => [⟨0x61, 0x7A⟩]
  | print => [⟨0x20, 0x7E⟩]
  | punct => [⟨0x21, 0x2F⟩, ⟨0x3A, 0x40⟩, ⟨0x5B, 0x60⟩, ⟨0x7B, 0x7E⟩]
  | space => [⟨0x09, 0x0D⟩, ⟨0x20, 0x20⟩]
  | upper => [⟨0x41, 0x5A⟩]
  | word => [⟨0x30, 0x39⟩, ⟨0x41, 0x5A⟩, ⟨0x5F, 0x5F⟩, ⟨0x61, 0x7A⟩]
  | xdigit => [⟨0x30, 0x39⟩, ⟨0x41, 0x46⟩, ⟨0x61, 0x66⟩]

/-- The members of a class with a one-letter escape. -/
def ShortClass.characters (unicode : Bool) : ShortClass → CharSet
  | digit => if unicode then Character.digits else AsciiClass.digit.characters
  | space => if unicode then Character.whiteSpace else AsciiClass.space.characters
  | word => if unicode then Character.word else AsciiClass.word.characters

namespace Flags

/-- The set of a class with a one-letter escape. -/
def short (flags : Flags) (kind : ShortClass) (negated : Bool) : Option CharSet :=
  let set := kind.characters flags.unicode
  flags.permit (if negated then set.complement else set)

/-- The set of a class by name. -/
def property (flags : Flags) (query : PropertyQuery) (negated : Bool) : Option CharSet := do
  if flags.unicode then flags.close negated (← query.characters?) else none

/-- The set of a literal in brackets, where cases are added at the end. -/
def member (flags : Flags) (literal : Literal) : Option Char := do
  let c ← flags.literal literal
  if flags.unicode || c.toNat < 0x80 then some c else none

mutual
/-- The set of a member of a class. -/
def item (flags : Flags) : ClassItem → Option CharSet
  | .literal literal => (flags.member literal).map CharSet.singleton
  | .range first last => do return .between (← flags.member first) (← flags.member last)
  | .ascii kind negated => flags.close negated kind.characters
  | .short kind negated => flags.short kind negated
  | .property query negated => flags.property query negated
  | .bracketed negated set => do flags.close negated (← classSet flags set)
termination_by structural item => item

/-- The union of the sets of members. -/
def items (flags : Flags) : List ClassItem → Option CharSet
  | [] => some []
  | item :: rest => do return (← Flags.item flags item).union (← items flags rest)
termination_by structural items => items

/-- The set inside brackets.  An operation is applied to sides that hold their other cases. -/
def classSet (flags : Flags) : ClassSet → Option CharSet
  | .union items => Flags.items flags items
  | .operation operator left right => do
    let left := flags.fold (← classSet flags left)
    let right := flags.fold (← classSet flags right)
    match operator with
    | .intersection => return left.intersection right
    | .difference => return left.difference right
    | .symmetricDifference => return left.symmetricDifference right
termination_by structural set => set
end

/-- What an assertion asks for. -/
def look (flags : Flags) : Assertion → Look
  | .startText => .startText
  | .endText => .endText
  | .startLine => if flags.multiLine then .startLine flags.crlf else .startText
  | .endLine => if flags.multiLine then .endLine flags.crlf else .endText
  | .wordBoundary => .boundary .word flags.unicode
  | .notWordBoundary => .boundary .notWord flags.unicode
  | .wordStart => .boundary .start flags.unicode
  | .wordEnd => .boundary .stop flags.unicode
  | .wordStartHalf => .boundary .startHalf flags.unicode
  | .wordEndHalf => .boundary .stopHalf flags.unicode

end Flags

/-! ## Expressions -/

/-- A computation under switches, which it may change. -/
abbrev Resolution (α : Type) : Type := StateT Flags Option α

namespace Ast

/-- A pattern of one set, found under the switches in force. -/
def resolveSet (set : Flags → Option CharSet) : Resolution Pattern := do
  return .one (← set (← get))

mutual
/-- The pattern of an expression.  A switch stays in force to the end of the group around it, over
all branches that follow. -/
def resolve : Ast → Resolution Pattern
  | .empty => pure .empty
  | .flags change => do
    modify (·.change change)
    pure .empty
  | .literal l => resolveSet (·.literalSet l)
  | .dot => resolveSet Flags.dot
  | .assertion place => do return .look ((← get).look place)
  | .short kind negated => resolveSet (·.short kind negated)
  | .property query negated => resolveSet (·.property query negated)
  | .bracketed negated set =>
    resolveSet fun flags => do flags.close negated (← flags.classSet set)
  | .repetition least most greedy body => do
    let body ← resolve body
    return .iterate least most (greedy != (← get).swapGreed) body
  | .group change body => do
    let outer ← get
    modify (·.change change)
    let body ← resolve body
    set outer
    pure body
  | .concat parts => resolveConcat parts
  | .alternation branches => resolveAlternation branches
termination_by structural ast => ast

/-- Parts one after the other. -/
def resolveConcat : List Ast → Resolution Pattern
  | [] => pure .empty
  | part :: rest => do
    let part ← resolve part
    return .concat part (← resolveConcat rest)
termination_by structural parts => parts

/-- Branches beside each other; no branch at all matches nothing. -/
def resolveAlternation : List Ast → Resolution Pattern
  | [] => pure (.one [])
  | branch :: rest => do
    let branch ← resolve branch
    return .alternate branch (← resolveAlternation rest)
termination_by structural branches => branches
end

end Ast

end EditorBridge.Regex
