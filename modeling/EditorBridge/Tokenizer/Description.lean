import EditorBridge.Json.Basic
/-!
Tokenizer descriptions in the shape that highlighters of editors take: word lists, one pattern for
symbols, and states whose rules match text or include other states.
-/

set_option autoImplicit false

namespace EditorBridge

/-- What happens when a rule matches. -/
inductive Action
  /-- The match is a token of a class; then a state may be entered or left. -/
  | token (token : String) (next : Option String)
  /-- Guarded actions, tried in order. -/
  | cases (guarded : List (String × Action))
deriving Inhabited, Repr

/-- A rule of a state. -/
inductive TokenizerRule
  | matching (regex : String) (action : Action)
  | including (state : String)
deriving Inhabited, Repr

/-- A state of the tokenizer. -/
structure State where
  name : String
  rules : List TokenizerRule
deriving Inhabited, Repr

/-- A tokenizer description. -/
structure TokenizerDescription where
  keywords : List String
  operators : List String
  symbols : String
  states : List State
deriving Inhabited, Repr

/-! ## Names -/

namespace Tokenizer

def mainState : String := "initial"

def whitespaceState : String := "whitespace"

def commentState : String := "comment"

def keywordsAttribute : String := "@keywords"

def operatorsAttribute : String := "@operators"

def symbolsAttribute : String := "@symbols"

/-- The guard that always applies. -/
def defaultCase : String := "@default"

/-- Leaves the current state. -/
def pop : String := "@pop"

def keywordToken : String := "keyword"

def operatorToken : String := "operator"

def whiteToken : String := "white"

def commentToken : String := "comment"

def stringToken : String := "string"

def plainToken : String := ""

end Tokenizer

/-! ## Actions -/

namespace Action

def plain (name : String) : Action := token name none

/-- A token of a class, and a state to go to. -/
def entering (name next : String) : Action := token name (some next)

/-- A token of one class for members of a list and of another class for all else. -/
def memberOr (list name fallback : String) : Action :=
  cases [(list, plain name), (Tokenizer.defaultCase, plain fallback)]

/-- Whether a guard applies to a text. -/
def applies (isMember : String → String → Bool) (text guard : String) : Bool :=
  guard == Tokenizer.defaultCase || isMember guard text

mutual
/-- The class an action gives a matched text: that of the first case that applies and yields one. -/
def classify (isMember : String → String → Bool) (text : String) : Action → Option String
  | token name _ => some name
  | cases guarded => classifyCases isMember text guarded
termination_by structural action => action

/-- The class that guarded actions give a matched text. -/
def classifyCases (isMember : String → String → Bool) (text : String) :
    List (String × Action) → Option String
  | [] => none
  | (guard, action) :: rest =>
    if applies isMember text guard then
      (classify isMember text action).orElse fun _ => classifyCases isMember text rest
    else classifyCases isMember text rest
termination_by structural guarded => guarded
end

mutual
def toJson : Action → Json
  | token name next => .object (("token", .string name) ::
      (next.map fun next => ("next", Json.string next)).toList)
  | cases guarded => .object [("cases", .object (casesToJson guarded))]
termination_by structural action => action

def casesToJson : List (String × Action) → List (String × Json)
  | [] => []
  | (guard, action) :: rest => (guard, toJson action) :: casesToJson rest
termination_by structural guarded => guarded
end

end Action

/-! ## Rules and states -/

namespace TokenizerRule

def includeState (state : String) : TokenizerRule := including ("@" ++ state)

def regex? : TokenizerRule → Option String
  | matching regex _ => some regex
  | including _ => none

def action? : TokenizerRule → Option Action
  | matching _ action => some action
  | including _ => none

def toJson : TokenizerRule → Json
  | matching regex action => .object [("regex", .string regex), ("action", action.toJson)]
  | including state => .object [("include", .string state)]

end TokenizerRule

def State.rulesToJson (state : State) : Json := .array (state.rules.map TokenizerRule.toJson)

namespace TokenizerDescription

/-- The first state of a name. -/
def state? (description : TokenizerDescription) (name : String) : Option State :=
  description.states.find? fun state => state.name == name

/-- Whether a text is in the list of an attribute. -/
def isMember (description : TokenizerDescription) (list text : String) : Bool :=
  if list = Tokenizer.keywordsAttribute then description.keywords.contains text
  else if list = Tokenizer.operatorsAttribute then description.operators.contains text
  else false

def toJson (description : TokenizerDescription) : Json :=
  .object [("keywords", .array (description.keywords.map Json.string)),
    ("operators", .array (description.operators.map Json.string)),
    ("symbols", .string description.symbols),
    ("tokenizer", .object (description.states.map fun state => (state.name, state.rulesToJson)))]

end TokenizerDescription

end EditorBridge
