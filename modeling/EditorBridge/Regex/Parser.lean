import EditorBridge.Regex.Syntax
import EditorBridge.Unicode.Character
/-!
Reading regular expressions.  The reader fails without saying why: what is wrong with a pattern is
not part of any answer.
-/

set_option autoImplicit false

namespace EditorBridge.Regex

/-- A pattern being read: what is left of it, whether blanks and comments are passed over, and the
names of groups met so far. -/
structure Scanner where
  rest : List Char
  ignoreBlanks : Bool := false
  names : List (List Char) := []

/-- A computation that reads from a pattern. -/
abbrev Parser (α : Type) : Type := StateT Scanner Option α

namespace Parser

/-! ## Characters -/

/-- What follows the blanks and comments at the front of a pattern. -/
def dropBlanks : Bool → List Char → List Char
  | _, [] => []
  | true, c :: rest => dropBlanks (c != '\n') rest
  | false, c :: rest =>
    if Character.isWhitespace c then dropBlanks false rest
    else if c = '#' then dropBlanks true rest
    else c :: rest

/-- What is left of the pattern. -/
def rest : Parser (List Char) := do return (← get).rest

/-- The next character, if any. -/
def peek : Parser (Option Char) := do return (← rest).head?

/-- Replaces what is left of the pattern. -/
def setRest (rest : List Char) : Parser Unit := modify fun scanner => { scanner with rest }

/-- Takes one character. -/
def advance : Parser Unit := do setRest (← rest).tail

/-- Passes over blanks and comments where they are ignored. -/
def skipBlanks : Parser Unit := do
  if (← get).ignoreBlanks then setRest (dropBlanks false (← rest))

/-- Takes one character and the ignored blanks after it. -/
def advanceAndSkip : Parser Unit := do
  advance
  skipBlanks

/-- The next character; there must be one. -/
def current : Parser Char := do
  match ← peek with
  | some c => pure c
  | none => failure

/-- Takes the given text if it is next. -/
def take? (text : List Char) : Parser Bool := do
  let rest ← rest
  if text.isPrefixOf rest then
    setRest (rest.drop text.length)
    pure true
  else pure false

/-- A bound for the number of steps of any loop. -/
def steps : Parser Nat := do return (← rest).length + 1

/-! ## Numbers -/

/-- The digits at the front, blanks ignored between them, in reverse. -/
def digitRun (isDigit : Char → Bool) : Nat → List Char → Parser (List Char)
  | 0, taken => pure taken
  | steps + 1, taken => do
    match ← peek with
    | some c =>
      if isDigit c then
        advanceAndSkip
        digitRun isDigit steps (c :: taken)
      else pure taken
    | none => pure taken

/-- The value of digits in a base, the last digit first. -/
def valueOf (base : Nat) (reversed : List Char) : Option Nat :=
  reversed.foldr (fun c value => do return (← value) * base + (← CharSet.hexDigit? c)) (some 0)

/-- Passes over white space. -/
def skipWhitespace : Nat → Parser Unit
  | 0 => pure ()
  | steps + 1 => do
    match ← peek with
    | some c =>
      if Character.isWhitespace c then
        advanceAndSkip
        skipWhitespace steps
    | none => pure ()

/-- A decimal number of 32 bits, maybe between white space. -/
def decimal : Parser Nat := do
  setRest ((← rest).dropWhile Character.isWhitespace)
  let digits ← digitRun Char.isDigit (← steps) []
  skipWhitespace (← steps)
  match digits, valueOf 10 digits with
  | _ :: _, some value => if value < Nat.pow 2 32 then pure value else failure
  | _, _ => failure

/-- The character of a code point. -/
def charOf (code : Nat) : Parser Char :=
  if code.isValidChar then pure (Char.ofNat code) else failure

/-- Exactly `count` hexadecimal digits, in reverse. -/
def hexRun : Nat → List Char → Parser (List Char)
  | 0, taken => pure taken
  | count + 1, taken => do
    let c ← current
    if (CharSet.hexDigit? c).isNone then failure
    advanceAndSkip
    hexRun count (c :: taken)

/-- A literal given by its code point.  The letter that says so is next. -/
def hexLiteral : Parser Literal := do
  let kind ← current
  let count := if kind = 'x' then 2 else if kind = 'u' then 4 else 8
  advanceAndSkip
  if (← current) = '{' then
    advanceAndSkip
    let digits ← digitRun (fun c => (CharSet.hexDigit? c).isSome) (← steps) []
    if (← current) ≠ '}' then failure
    advanceAndSkip
    match digits, valueOf 16 digits with
    | _ :: _, some value => return ⟨← charOf value, false⟩
    | _, _ => failure
  else
    let digits ← hexRun count []
    match valueOf 16 digits with
    | some value => return ⟨← charOf value, kind = 'x'⟩
    | none => failure

/-! ## Escapes -/

/-- What an escape or a single character can be. -/
inductive Primitive
  | literal (literal : Literal)
  | dot
  | assertion (assertion : Assertion)
  | short (kind : ShortClass) (negated : Bool)
  | property (query : PropertyQuery) (negated : Bool)

def Primitive.toAst : Primitive → Ast
  | literal l => .literal l
  | dot => .dot
  | assertion a => .assertion a
  | short kind negated => .short kind negated
  | property query negated => .property query negated

/-- Everything up to a closing brace, blanks ignored; the brace is taken. -/
def braced : Nat → List Char → Parser (List Char)
  | 0, _ => failure
  | steps + 1, taken => do
    let c ← current
    if c = '}' then
      advance
      pure taken.reverse
    else
      advanceAndSkip
      braced steps (c :: taken)

/-- The parts of a name before and after the first occurrence of a sign. -/
def splitAtSign (sign : List Char) : List Char → Option (List Char × List Char)
  | [] => none
  | c :: rest =>
    if sign.isPrefixOf (c :: rest) then some ([], (c :: rest).drop sign.length)
    else (splitAtSign sign rest).map fun (before, after) => (c :: before, after)

/-- The class that a name in braces asks for.  The signs `:`, `=` and `!=` between a property and its
value all read alike. -/
def queryOf (name : List Char) : PropertyQuery :=
  let parts :=
    splitAtSign ['!', '='] name <|> splitAtSign [':'] name <|> splitAtSign ['='] name
  match parts with
  | some (property, value) => .valued (String.ofList property) (String.ofList value)
  | none => .named (String.ofList name)

/-- A class by name.  The letter that says so is next; in upper case it negates. -/
def propertyClass : Parser Primitive := do
  let negated := (← current) = 'P'
  advanceAndSkip
  let c ← current
  if c = '{' then
    advanceAndSkip
    return .property (queryOf (← braced (← steps) [])) negated
  else if c = '\\' then failure
  else
    advanceAndSkip
    pure (.property (.named c.toString) negated)

/-- Letters that can name a kind of word boundary. -/
def isBoundaryLetter (c : Char) : Bool := c.isAlpha || c == '-'

/-- The kind of word boundary named in braces, if what is next is such a name. -/
def boundaryName : Parser (Option Assertion) := do
  let before ← get
  advanceAndSkip
  if !isBoundaryLetter (← current) then
    setRest before.rest
    pure none
  else
    let name ← digitRun isBoundaryLetter (← steps) []
    if (← current) ≠ '}' then failure
    advance
    match String.ofList name.reverse with
    | "start" => pure (some .wordStart)
    | "end" => pure (some .wordEnd)
    | "start-half" => pure (some .wordStartHalf)
    | "end-half" => pure (some .wordEndHalf)
    | _ => failure

/-- Characters with a meaning of their own. -/
def isMeta (c : Char) : Bool :=
  ['\\', '.', '+', '*', '?', '(', ')', '|', '[', ']', '{', '}', '^', '$', '#', '&', '-', '~'].contains c

/-- Characters that an escape stands for as they are. -/
def isEscapable (c : Char) : Bool :=
  isMeta c || (c.toNat < 0x80 && !c.isAlphanum && c != '<' && c != '>')

/-- An escape, whose backslash is next. -/
def escape : Parser Primitive := do
  advance
  let c ← current
  match c with
  | 'x' | 'u' | 'U' => return .literal (← hexLiteral)
  | 'p' | 'P' => propertyClass
  | _ =>
    advance
    if isEscapable c then pure (.literal ⟨c, false⟩)
    else
      match c with
      | 'd' => pure (.short .digit false)
      | 'D' => pure (.short .digit true)
      | 's' => pure (.short .space false)
      | 'S' => pure (.short .space true)
      | 'w' => pure (.short .word false)
      | 'W' => pure (.short .word true)
      | 'a' => pure (.literal ⟨'\x07', false⟩)
      | 'f' => pure (.literal ⟨'\x0c', false⟩)
      | 't' => pure (.literal ⟨'\t', false⟩)
      | 'n' => pure (.literal ⟨'\n', false⟩)
      | 'r' => pure (.literal ⟨'\r', false⟩)
      | 'v' => pure (.literal ⟨'\x0b', false⟩)
      | 'A' => pure (.assertion .startText)
      | 'z' => pure (.assertion .endText)
      | 'b' =>
        if (← peek) = some '{' then return .assertion ((← boundaryName).getD .wordBoundary)
        else pure (.assertion .wordBoundary)
      | 'B' => pure (.assertion .notWordBoundary)
      | '<' => pure (.assertion .wordStart)
      | '>' => pure (.assertion .wordEnd)
      | _ => failure

/-- An escape or a single character. -/
def primitive : Parser Primitive := do
  match ← current with
  | '\\' => escape
  | '.' =>
    advance
    pure .dot
  | '^' =>
    advance
    pure (.assertion .startLine)
  | '$' =>
    advance
    pure (.assertion .endLine)
  | c =>
    advance
    pure (.literal ⟨c, false⟩)

/-! ## Classes in brackets -/

/-- The class of ASCII characters of a name. -/
def asciiClass? (name : String) : Option AsciiClass :=
  match name with
  | "alnum" => some .alnum
  | "alpha" => some .alpha
  | "ascii" => some .ascii
  | "blank" => some .blank
  | "cntrl" => some .cntrl
  | "digit" => some .digit
  | "graph" => some .graph
  | "lower" => some .lower
  | "print" => some .print
  | "punct" => some .punct
  | "space" => some .space
  | "upper" => some .upper
  | "word" => some .word
  | "xdigit" => some .xdigit
  | _ => none

/-- A class such as `[:alpha:]` at the front of a pattern, and what follows it. -/
def asciiItem? (pattern : List Char) : Option (ClassItem × List Char) :=
  match pattern with
  | '[' :: ':' :: inner =>
    let (negated, inner) := match inner with
      | '^' :: inner => (true, inner)
      | inner => (false, inner)
    let name := inner.takeWhile (· != ':')
    match inner.dropWhile (· != ':') with
    | ':' :: ']' :: after =>
      (asciiClass? (String.ofList name)).map fun kind => (.ascii kind negated, after)
    | _ => none
  | _ => none

/-- The character after the next one, as far as ranges are concerned: ignored blanks are passed over
there. -/
def peekPast : Parser (Option Char) := do
  let scanner ← get
  let after := scanner.rest.tail
  if scanner.ignoreBlanks then
    match after.dropWhile Character.isWhitespace with
    | '#' :: comment =>
      match comment.dropWhile Character.isWhitespace with
      | c :: _ => pure (some c)
      | [] => pure after.head?
    | c :: _ => pure (some c)
    | [] => pure after.head?
  else pure after.head?

/-- A single member of a class. -/
def classPrimitive : Parser Primitive := do
  let c ← current
  if c = '\\' then escape
  else
    advance
    pure (.literal ⟨c, false⟩)

def classItem : Primitive → Parser ClassItem
  | .literal l => pure (.literal l)
  | .short kind negated => pure (.short kind negated)
  | .property query negated => pure (.property query negated)
  | .dot | .assertion _ => failure

/-- A member of a class or a range of them. -/
def classRange : Parser ClassItem := do
  let first ← classPrimitive
  skipBlanks
  let c ← current
  let past ← peekPast
  if c ≠ '-' ∨ past = some ']' ∨ past = some '-' then classItem first
  else
    advanceAndSkip
    discard current
    match first, ← classPrimitive with
    | .literal first, .literal last =>
      if first.char ≤ last.char then pure (.range first last) else failure
    | _, _ => failure

/-- The dashes at the front of a class, which are literal. -/
def leadingDashes : Nat → List ClassItem → Parser (List ClassItem)
  | 0, items => pure items
  | steps + 1, items => do
    if (← current) = '-' then
      advanceAndSkip
      leadingDashes steps (.literal ⟨'-', false⟩ :: items)
    else pure items

/-- Opens a class whose bracket is next: whether it is negated, and the members that come first. -/
def openClass : Parser (Bool × List ClassItem) := do
  advanceAndSkip
  let negated := (← current) = '^'
  if negated then advanceAndSkip
  let dashes ← leadingDashes (← steps) []
  if dashes.isEmpty && (← current) = ']' then
    advanceAndSkip
    discard current
    pure (negated, [.literal ⟨']', false⟩])
  else pure (negated, dashes)

/-- What has been read of the content of brackets: an operation whose right side is being read, and
the members of that side in reverse. -/
structure ClassState where
  left : Option (ClassSet × SetOperator)
  items : List ClassItem

/-- The set read so far. -/
def ClassState.close (state : ClassState) : ClassSet :=
  let items := ClassSet.union state.items.reverse
  match state.left with
  | none => items
  | some (left, operator) => .operation operator left items

/-- Reads the content of brackets up to and including the closing one, given how brackets inside it
are read. -/
def classContent (inner : Parser ClassItem) : Nat → ClassState → Parser ClassSet
  | 0, _ => failure
  | steps + 1, state => do
    skipBlanks
    let pattern ← rest
    let add (item : ClassItem) : ClassState := { state with items := item :: state.items }
    match pattern with
    | [] => failure
    | '[' :: _ =>
      match asciiItem? pattern with
      | some (item, after) =>
        setRest after
        classContent inner steps (add item)
      | none => classContent inner steps (add (← inner))
    | ']' :: after =>
      setRest after
      pure state.close
    | '&' :: '&' :: after =>
      setRest after
      classContent inner steps ⟨some (state.close, .intersection), []⟩
    | '-' :: '-' :: after =>
      setRest after
      classContent inner steps ⟨some (state.close, .difference), []⟩
    | '~' :: '~' :: after =>
      setRest after
      classContent inner steps ⟨some (state.close, .symmetricDifference), []⟩
    | _ => classContent inner steps (add (← classRange))

/-- A class whose bracket is next, with at most `nesting` brackets open at once: whether it is
negated, and its content. -/
def bracketed : Nat → Parser (Bool × ClassSet)
  | 0 => failure
  | nesting + 1 => do
    let (negated, items) ← openClass
    let inner : Parser ClassItem := do
      let (negated, set) ← bracketed nesting
      pure (.bracketed negated set)
    return (negated, ← classContent inner (← steps) ⟨none, items⟩)

/-! ## Repetition -/

/-- The expression a repetition operator applies to; flags and nothing at all cannot be repeated. -/
def repeatable : List Ast → Parser (Ast × List Ast)
  | [] => failure
  | .empty :: _ | .flags _ :: _ => failure
  | ast :: before => pure (ast, before)

/-- Whether a repetition is greedy: not if a question mark is next, which is taken. -/
def greediness : Parser Bool := do
  if (← peek) = some '?' then
    advance
    pure false
  else pure true

/-- Applies a repetition operator of one character, which is next. -/
def simpleRepetition (least : Nat) (most : Option Nat) (parts : List Ast) : Parser (List Ast) := do
  let (ast, before) ← repeatable parts
  advance
  return .repetition least most (← greediness) ast :: before

/-- Applies a counted repetition, whose brace is next. -/
def countedRepetition (parts : List Ast) : Parser (List Ast) := do
  let (ast, before) ← repeatable parts
  advanceAndSkip
  let least ← decimal
  let most ←
    if (← current) = ',' then do
      advanceAndSkip
      if (← current) = '}' then pure none else some <$> decimal
    else pure (some least)
  if (← current) ≠ '}' then failure
  advanceAndSkip
  let greedy ← greediness
  if most.any (· < least) then failure
  return .repetition least most greedy ast :: before

/-! ## Groups -/

/-- The switch of a letter. -/
def flag? (c : Char) : Option Flag :=
  match c with
  | 'i' => some .caseInsensitive
  | 'm' => some .multiLine
  | 's' => some .dotMatchesNewLine
  | 'U' => some .swapGreed
  | 'u' => some .unicode
  | 'R' => some .crlf
  | 'x' => some .ignoreWhitespace
  | _ => none

/-- The switches up to a colon or a closing parenthesis, in reverse.  `negated` says whether a dash
has been met, `dangling` whether it was the last thing met. -/
def flagRun : Nat → Bool → Bool → FlagChange → Parser FlagChange
  | 0, _, _, _ => failure
  | steps + 1, negated, dangling, change => do
    let c ← current
    if c = ':' || c = ')' then
      if dangling then failure else pure change
    else if c = '-' then
      if negated then failure
      advance
      flagRun steps true true change
    else
      match flag? c with
      | none => failure
      | some flag =>
        if change.any fun (other, _) => other == flag then failure
        advance
        flagRun steps negated false ((flag, !negated) :: change)

/-- Whether the name of a group may hold a character. -/
def isNameChar (first : Bool) (c : Char) : Bool :=
  if first then c == '_' || Character.isAlphabetic c
  else c == '_' || c == '.' || c == '[' || c == ']' || Character.isAlphanumeric c

/-- The name of a group up to and including the closing angle. -/
def groupName : Parser Unit := do
  let pattern ← rest
  let name := pattern.takeWhile (· != '>')
  match name, pattern.drop name.length with
  | first :: more, _ :: after =>
    if !(isNameChar true first && more.all (isNameChar false)) then failure
    if (← get).names.contains name then failure
    modify fun scanner => { scanner with rest := after, names := name :: scanner.names }
  | _, _ => failure

/-- What an opening parenthesis begins. -/
inductive Opening
  | flags (change : FlagChange)
  | group (change : FlagChange)

/-- Reads an opening parenthesis, which is next, and what belongs to it. -/
def opening : Parser Opening := do
  advanceAndSkip
  for sign in [['?', '='], ['?', '!'], ['?', '<', '='], ['?', '<', '!']] do
    if ← take? sign then failure
  let named ← do
    if ← take? ['?', 'P', '<'] then pure true else take? ['?', '<']
  if named then
    groupName
    pure (.group [])
  else if ← take? ['?'] then
    let change := (← flagRun (← steps) false false []).reverse
    let isFlags := (← current) = ')'
    advance
    if isFlags then
      -- without any switch this is a repetition operator that has nothing to repeat
      if change.isEmpty then failure else pure (.flags change)
    else pure (.group change)
  else pure (.group [])

/-- Turns the ignoring of blanks on or off where the switches say so. -/
def applyBlanks (change : FlagChange) : Parser Unit :=
  match change.find? fun (flag, _) => flag == .ignoreWhitespace with
  | some (_, on) => modify fun scanner => { scanner with ignoreBlanks := on }
  | none => pure ()

/-! ## Expressions -/

/-- How deeply an expression may be nested. -/
def maxNesting : Nat := 250

/-- Reads branches up to a closing parenthesis or the end, neither of which is taken, given how the
inside of a group is read.  `branches` and the `parts` of the branch being read are in reverse. -/
def branchesRest (inner : Parser Ast) : Nat → List Ast → List Ast → Parser Ast
  | 0, _, _ => failure
  | steps + 1, branches, parts => do
    skipBlanks
    let finished := Ast.ofBranches (Ast.ofParts parts.reverse :: branches).reverse
    match ← peek with
    | none => pure finished
    | some ')' => pure finished
    | some '|' =>
      advance
      branchesRest inner steps (Ast.ofParts parts.reverse :: branches) []
    | some '(' =>
      let outer := (← get).ignoreBlanks
      match ← opening with
      | .flags change =>
        applyBlanks change
        branchesRest inner steps branches (.flags change :: parts)
      | .group change =>
        applyBlanks change
        let body ← inner
        if (← current) ≠ ')' then failure
        modify fun scanner => { scanner with ignoreBlanks := outer }
        advance
        branchesRest inner steps branches (.group change body :: parts)
    | some '[' =>
      let (negated, set) ← bracketed (maxNesting + 1)
      branchesRest inner steps branches (.bracketed negated set :: parts)
    | some '?' => do branchesRest inner steps branches (← simpleRepetition 0 (some 1) parts)
    | some '*' => do branchesRest inner steps branches (← simpleRepetition 0 none parts)
    | some '+' => do branchesRest inner steps branches (← simpleRepetition 1 none parts)
    | some '{' => do branchesRest inner steps branches (← countedRepetition parts)
    | some _ =>
      let part ← primitive
      branchesRest inner steps branches (part.toAst :: parts)

/-- Reads branches with at most `nesting` groups open at once. -/
def branches : Nat → Parser Ast
  | 0 => failure
  | nesting + 1 => do branchesRest (branches nesting) (← steps) [] []

end Parser

/-- The expression a pattern spells. -/
def parse (pattern : String) : Option Ast := do
  let (ast, scanner) ← (Parser.branches (Parser.maxNesting + 1)).run { rest := pattern.toList }
  if scanner.rest.isEmpty && ast.depth ≤ Parser.maxNesting then some ast else none

end EditorBridge.Regex
