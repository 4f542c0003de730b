import EditorBridge.Regex.Match
import EditorBridge.Regex.Parser
import EditorBridge.Regex.Resolve
import EditorBridge.Regex.Size
/-!
From the text of a regular expression to a pattern that texts can be searched for.
-/

set_option autoImplicit false

namespace EditorBridge.Regex

/-- Why a text gives no pattern. -/
inductive CompileError
  | malformed
  | tooBig
deriving DecidableEq, Repr

/-- The pattern a text spells, if it is of a moderate size. -/
def compile (text : String) : Except CompileError Pattern :=
  match (parse text).bind fun ast => ast.resolve.run' {} with
  | none => .error .malformed
  | some pattern => if pattern.size ≤ Pattern.maxSize then .ok pattern else .error .tooBig

end EditorBridge.Regex
