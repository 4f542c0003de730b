import EditorBridge.Decimal.Shortest
/-!
Numbers of JSON documents: integers that fit 64 bits, signed or unsigned, and binary64 numbers.
-/

set_option autoImplicit false

namespace EditorBridge

/-- A JSON number.  Integers stay integers, everything else is a binary64 number. -/
inductive Number
  | integer (value : Int)
  | float (value : Binary64)
deriving DecidableEq, Repr, Inhabited

namespace Number

def text : Number → String
  | integer value => toString value
  | float value => value.text

/-- Numeric agreement within one kind: an integer never agrees with a float. -/
def agrees : Number → Number → Bool
  | integer a, integer b => a == b
  | float a, float b => a.agrees b
  | _, _ => false

end Number

end EditorBridge
