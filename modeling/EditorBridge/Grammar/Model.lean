/-!
Grammar models: the rules of a grammar as they are delivered, with rule calls still by name.
-/

set_option autoImplicit false

namespace EditorBridge

/-- How often an element may occur. -/
inductive Cardinality
  | optional | many | atLeastOne
deriving DecidableEq, Repr

/-- An element of a parser rule.  Without a cardinality it occurs exactly once. -/
inductive ElementModel
  | keyword (cardinality : Option Cardinality) (value : String)
  | ruleCall (cardinality : Option Cardinality) (rule : String)
  | assignment (cardinality : Option Cardinality) (feature operator : String)
      (terminal : ElementModel)
  | group (cardinality : Option Cardinality) (elements : List ElementModel)
  | alternatives (cardinality : Option Cardinality) (elements : List ElementModel)
  | unorderedGroup (cardinality : Option Cardinality) (elements : List ElementModel)
  | crossReference (cardinality : Option Cardinality) (typeName : String)
      (terminal : Option ElementModel)
  | action (cardinality : Option Cardinality) (typeName : String)
deriving Inhabited, Repr

/-- What a terminal rule matches. -/
inductive TerminalDefinition
  | regex (pattern : String)
  | literal (value : String)
  | ruleCall (rule : String)
  | group (elements : List TerminalDefinition)
  | alternatives (elements : List TerminalDefinition)
deriving Inhabited, Repr

/-- A parser rule. -/
structure ParserRuleModel where
  name : String
  /-- Whether parsing starts here. -/
  entry : Bool
  definition : ElementModel
deriving Inhabited, Repr

/-- A terminal rule. -/
structure TerminalRuleModel where
  name : String
  /-- The type of the values it yields, if declared. -/
  typeName : Option String
  /-- Whether its matches are left out of the tree. -/
  hidden : Bool
  /-- Whether it is only a part of other terminals. -/
  fragment : Bool
  definition : TerminalDefinition
deriving Inhabited, Repr

/-- A rule of a grammar. -/
inductive RuleModel
  | parser (rule : ParserRuleModel)
  | terminal (rule : TerminalRuleModel)
deriving Inhabited, Repr

def RuleModel.name : RuleModel → String
  | parser rule => rule.name
  | terminal rule => rule.name

/-- A grammar: its name and its rules in declaration order. -/
structure GrammarModel where
  name : String
  rules : List RuleModel
deriving Inhabited, Repr

end EditorBridge
