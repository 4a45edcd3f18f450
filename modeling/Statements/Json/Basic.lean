import Statements.Entries
import Statements.Binary64.Decimal

/-!
# JSON values

A JSON number is an integer that fits a signed or an unsigned 64-bit word, or a finite double;
there is no third kind, and both bounds are part of the type. An object is a list of members in
order. A text may repeat a name, so the type lets a name repeat; what reads a JSON value from a
text collapses the members of every object.
-/

namespace Statements

namespace Json

/-- An integer of the signed or of the unsigned 64-bit range. -/
structure Integer where
  val : Int
  least : -0x8000000000000000 ≤ val
  most : val < 0x10000000000000000
deriving DecidableEq

/-- A number of a JSON value. -/
inductive Number where
  | integer (n : Integer)
  | float (x : Binary64) (finite : x.isFinite = true)
deriving DecidableEq

namespace Number

/-- The integer as a JSON number, if one of the two ranges holds it. -/
def ofInt? (n : Int) : Option Number :=
  if h : -0x8000000000000000 ≤ n ∧ n < 0x10000000000000000 then some (.integer ⟨n, h.1, h.2⟩)
  else none

/-- The double as a JSON number, if it is finite. -/
def ofBinary64? (x : Binary64) : Option Number :=
  if h : x.isFinite = true then some (.float x h) else none

/-- The number as an integer of the signed range, if it is one. -/
def signed? : Number → Option Int64
  | .integer n => if n.val < 0x8000000000000000 then some (Int64.ofInt n.val) else none
  | .float _ _ => none

/-- The number as an integer of the unsigned range, if it is one. -/
def unsigned? : Number → Option UInt64
  | .integer n => if 0 ≤ n.val then some (UInt64.ofNat n.val.toNat) else none
  | .float _ _ => none

/-- The number as a double, for an integer the nearest one. There is one for every number. -/
def double? : Number → Option Binary64
  | .integer n => some (Binary64.ofInt n.val)
  | .float x _ => some x

end Number

end Json

/-- A JSON value. -/
inductive Json where
  | null
  | bool (b : Bool)
  | number (n : Json.Number)
  | string (s : String)
  | array (items : List Json)
  | object (members : List (String × Json))

namespace Json

/-- The value is one of the four kinds without parts. -/
def isScalar : Json → Bool
  | .array _ | .object _ => false
  | _ => true

end Json

end Statements
