/-!
Problems with a grammar, each attached to the rule it was found in, and the accumulator that
collects them in order.
-/

set_option autoImplicit false

namespace EditorBridge

/-- A problem with a rule. -/
structure RuleProblem where
  rule : String
  message : String
deriving DecidableEq, Repr

namespace RuleProblem

/-- A problem as one line of text. -/
def text (problem : RuleProblem) : String := problem.rule ++ ": " ++ problem.message

/-- The problem of a rule whose name an earlier rule has. -/
def duplicateName (rule : String) : RuleProblem := ⟨rule, "Duplicate rule name"⟩

/-- The problem of a rule that calls a rule which does not exist. -/
def unknownRule (rule called : String) : RuleProblem :=
  ⟨rule, "Unknown rule `" ++ called ++ "`"⟩

end RuleProblem

/-- Problems collected so far, the earliest first. -/
structure Diagnostics where
  problems : List RuleProblem := []
deriving DecidableEq, Repr

namespace Diagnostics

def report (diagnostics : Diagnostics) (problem : RuleProblem) : Diagnostics :=
  ⟨diagnostics.problems ++ [problem]⟩

def reportAll (diagnostics : Diagnostics) (problems : List RuleProblem) : Diagnostics :=
  ⟨diagnostics.problems ++ problems⟩

def isEmpty (diagnostics : Diagnostics) : Bool := diagnostics.problems.isEmpty

/-- Hands over the problems collected and starts afresh. -/
def take (diagnostics : Diagnostics) : List RuleProblem × Diagnostics := (diagnostics.problems, {})

end Diagnostics

end EditorBridge
