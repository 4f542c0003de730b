import EditorBridge.Grammar.Basic
import EditorBridge.Grammar.Collation
import EditorBridge.Tokenizer.Escape
/-!
The keyword literals of a grammar: those of all parser rules that can be reached from the entry
rules, split into words and symbols, and one pattern for all symbols.
-/

set_option autoImplicit false

namespace EditorBridge

/-! ## Elements -/

namespace Element

mutual
/-- The keyword literals anywhere in an element. -/
def keywords : Element → List String
  | keyword value => [value]
  | assignment _ terminal => keywords terminal
  | group elements | alternatives elements | unorderedGroup elements => keywordsList elements
  | crossReference terminal => keywordsOption terminal
  | ruleCall _ | action => []
termination_by structural element => element

def keywordsList : List Element → List String
  | [] => []
  | element :: rest => keywords element ++ keywordsList rest
termination_by structural elements => elements

def keywordsOption : Option Element → List String
  | none => []
  | some element => keywords element
termination_by structural element => element
end

mutual
/-- The rules called anywhere in an element. -/
def calls : Element → List RuleHandle
  | ruleCall rule => rule.toList
  | assignment _ terminal => calls terminal
  | group elements | alternatives elements | unorderedGroup elements => callsList elements
  | crossReference terminal => callsOption terminal
  | keyword _ | action => []
termination_by structural element => element

def callsList : List Element → List RuleHandle
  | [] => []
  | element :: rest => calls element ++ callsList rest
termination_by structural elements => elements

def callsOption : Option Element → List RuleHandle
  | none => []
  | some element => calls element
termination_by structural element => element
end

end Element

/-! ## Reachable rules -/

namespace Grammar

def element? (grammar : Grammar) (handle : RuleHandle) : Option Element :=
  match (grammar.rule? handle).map Rule.body with
  | some (.parser element) => some element
  | _ => none

/-- The rules a rule calls. -/
def callsOf (grammar : Grammar) (handle : RuleHandle) : List RuleHandle :=
  ((grammar.element? handle).map Element.calls).getD []

/-- The rules visited from `due` on, those in `visited` included; `steps` bounds the search. -/
def search (grammar : Grammar) : Nat → List RuleHandle → List RuleHandle → List RuleHandle
  | 0, _, visited => visited
  | _ + 1, [], visited => visited
  | steps + 1, handle :: due, visited =>
    if visited.contains handle then search grammar steps due visited
    else search grammar steps (grammar.callsOf handle ++ due) (handle :: visited)

/-- The number of calls in all parser rules. -/
def callCount (grammar : Grammar) : Nat :=
  grammar.parserRules.foldl (fun count (_, _, element) => count + element.calls.length) 0

/-- The rules reachable from the entry rules.  Each rule is opened once, so no more rules become due
than there are entries and calls. -/
def reachable (grammar : Grammar) : List RuleHandle :=
  let entries := grammar.entryRules
  grammar.search (entries.length + grammar.callCount + 1) entries []

/-- The distinct keyword literals of all parser rules reachable from the entry rules. -/
def literals (grammar : Grammar) : List String :=
  (grammar.reachable.flatMap fun handle =>
    ((grammar.element? handle).map Element.keywords).getD []).eraseDups

end Grammar

/-! ## Keywords -/

/-- The literals of a grammar: words such as `if` and symbols such as `+`. -/
structure Keywords where
  words : List String
  symbols : List String
deriving DecidableEq, Repr

/-- Whether a literal is a word: it contains a letter. -/
def isWord (literal : String) : Bool := literal.toList.any Character.isAlphabetic

namespace Keywords

/-- Splits literals into words and symbols, each in collation order. -/
def ofLiterals (literals : List String) : Keywords :=
  ⟨Collation.sort (literals.filter isWord), Collation.sort (literals.filter fun literal => !isWord literal)⟩

/-- Whether the first symbol may stand before the second in the pattern: longer ones first, so that
`==` is not taken for two `=`. -/
def longerFirst (a b : String) : Bool :=
  b.length < a.length || (a.length == b.length && Collation.atMost a b)

/-- The symbols in the order in which they are tried. -/
def tried (symbols : List String) : List String := symbols.mergeSort longerFirst

/-- A pattern that matches nothing. -/
def nothing : String := "[^\\s\\S]"

/-- One pattern for all symbols.  An empty alternation would match the empty text, so without symbols
the pattern is one that matches nothing. -/
def symbolsPattern (symbols : List String) : String :=
  if symbols.isEmpty then nothing else "|".intercalate ((tried symbols).map Pattern.escape)

end Keywords

def Grammar.keywords (grammar : Grammar) : Keywords := Keywords.ofLiterals grammar.literals

end EditorBridge
