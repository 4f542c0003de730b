import EditorBridge.Grammar.Keywords
import EditorBridge.Log
import EditorBridge.Tokenizer.Delimiters
import EditorBridge.Tokenizer.Terminal
/-!
The tokenizer description of a grammar.  Terminals are placed one by one in declaration order: tokens
in the main state, white space and comments in a state that the main state includes.  A comment with
two different delimiters gets a state of its own, entered by its opening delimiter.
-/

set_option autoImplicit false

namespace EditorBridge

open Tokenizer

/-! ## Single terminals -/

/-- The rule of a terminal that makes tokens.  If it matches a reserved word, the match is a reserved
word. -/
def tokenRule (rule : Rule) (pattern : TerminalPattern) (words : List String) : TokenizerRule :=
  let action :=
    if words.any pattern.isFullMatch then
      Action.memberOr keywordsAttribute keywordToken rule.tokenClass
    else Action.plain rule.tokenClass
  .matching pattern.source action

/-- The state inside a delimited comment: what can belong to no delimiter, the closing delimiter, and
any other character of a delimiter. -/
def commentRules (name : String) (delimiters : Delimiters) : State :=
  let members := Pattern.classBody (delimiters.opening ++ delimiters.closing)
  ⟨name, [
    .matching ("[^" ++ members ++ "]+") (Action.plain commentToken),
    .matching (Pattern.escape delimiters.closing) (Action.entering commentToken pop),
    .matching ("[" ++ members ++ "]") (Action.plain commentToken)]⟩

/-- The name of the state of a delimited comment, given how many there are before it. -/
def commentName (before : Nat) : String :=
  if before = 0 then commentState else commentState ++ "_" ++ toString (before + 1)

/-- Why a terminal has no place in the tokenizer. -/
inductive SkipReason
  | notRegular | fragment | unsupported | blank
deriving DecidableEq, Repr

/-- The log message about a terminal without a place.  Of a pattern that is not supported the message says no
more than that: what the engine reports about it is the engine's text, and is left out. -/
def SkipReason.message (name : String) : SkipReason → String
  | notRegular => "Skipping terminal " ++ name ++ ", not a regular expression"
  | fragment => "Skipping fragment terminal " ++ name
  | unsupported => "Skipping terminal " ++ name ++ ", unsupported pattern"
  | blank => "Skipping terminal " ++ name ++ ", it matches blank text"

/-- The pattern and the place of a terminal. -/
def placeTerminal (rule : Rule) (definition : TerminalDefinition) :
    Except SkipReason (TerminalPattern × TerminalClass) :=
  match definition with
  | .regex source =>
    if rule.fragment then .error .fragment
    else
      match TerminalPattern.compile source with
      | .error _ => .error .unsupported
      | .ok pattern =>
        match TerminalClass.classify rule.hidden pattern with
        | none => .error .blank
        | some place => .ok (pattern, place)
  | _ => .error .notRegular

/-! ## Assembly -/

/-- The parts of a description while terminals are being placed. -/
structure Assembly where
  tokens : List TokenizerRule := []
  blanks : List TokenizerRule := []
  comments : List State := []
  log : List LogRecord := []

namespace Assembly

def addComment (assembly : Assembly) (source : String) : Assembly :=
  let delimiters := Delimiters.ofPattern source
  if delimiters.isDelimited then
    let name := commentName assembly.comments.length
    let entering := Action.entering commentToken ("@" ++ name)
    { assembly with
      blanks := assembly.blanks ++ [.matching (Pattern.escape delimiters.opening) entering]
      comments := assembly.comments ++ [commentRules name delimiters] }
  else
    let rule := TokenizerRule.matching source (Action.plain commentToken)
    { assembly with blanks := assembly.blanks ++ [rule] }

/-- Places one terminal. -/
def add (words : List String) (assembly : Assembly) (rule : Rule) (definition : TerminalDefinition) :
    Assembly :=
  match placeTerminal rule definition with
  | .error reason =>
    let record := ⟨.debug, "weft_lexgen::lexer", reason.message rule.name⟩
    { assembly with log := assembly.log ++ [record] }
  | .ok (pattern, .whitespace) =>
    let rule := TokenizerRule.matching pattern.source (Action.plain whiteToken)
    { assembly with blanks := assembly.blanks ++ [rule] }
  | .ok (pattern, .comment) => assembly.addComment pattern.source
  | .ok (pattern, .token) =>
    { assembly with tokens := assembly.tokens ++ [tokenRule rule pattern words] }

/-- The states of the tokenizer. -/
def states (assembly : Assembly) : List State :=
  let symbols := Action.memberOr operatorsAttribute operatorToken plainToken
  let rules := assembly.tokens ++
    [.includeState whitespaceState, .matching symbolsAttribute symbols]
  ⟨mainState, rules⟩ :: ⟨whitespaceState, assembly.blanks⟩ :: assembly.comments

end Assembly

namespace Grammar

/-- All terminals of the grammar in their places. -/
def assemble (grammar : Grammar) (words : List String) : Assembly :=
  grammar.terminalRules.foldl (fun assembly (_, rule, definition) => assembly.add words rule definition) {}

/-- The tokenizer description of the grammar, and what there is to report about its terminals. -/
def tokenizer (grammar : Grammar) : TokenizerDescription × List LogRecord :=
  let keywords := grammar.keywords
  let assembly := grammar.assemble keywords.words
  ({ keywords := keywords.words, operators := keywords.symbols,
     symbols := Keywords.symbolsPattern keywords.symbols, states := assembly.states }, assembly.log)

end Grammar

end EditorBridge
