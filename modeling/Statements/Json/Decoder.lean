import Statements.Json.Mismatch

/-!
# Reading typed values out of JSON values

A decoder answers the value wanted or the mismatch that stands in the way. The integer decoders
take no double, even a whole one; the decoder of doubles takes integers too.
-/

namespace Statements

namespace Json

/-- Reads a value of a type out of a JSON value. -/
abbrev Decoder (α : Type) := Json → Except Mismatch α

namespace Decoder

def integer (range : IntegerRange) : Decoder Int
  | .number (.integer n) =>
    if range.holds n.val then .ok n.val else .error (.outOfRange n.val range)
  | json => .error (.wrongType json (.integer range))

def float : Decoder Binary64
  | .number (.integer n) => .ok (Binary64.ofInt n.val)
  | .number (.float x _) => .ok x
  | json => .error (.wrongType json .float)

def boolean : Decoder Bool
  | .bool b => .ok b
  | json => .error (.wrongType json .boolean)

def string : Decoder String
  | .string s => .ok s
  | json => .error (.wrongType json .string)

/-- Null stands for no value. -/
def optional {α : Type} (decoder : Decoder α) : Decoder (Option α)
  | .null => .ok none
  | json => (decoder json).map some

end Decoder

end Json

end Statements
