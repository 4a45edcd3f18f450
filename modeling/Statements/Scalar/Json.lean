import Statements.Scalar.Basic
import Statements.Json.Decoder
import Statements.Error

/-!
# Scalars as JSON

A scalar is written as the plain JSON value, so a double that is not finite becomes null and an
integer does not show which of the two ranges it came from. There are two ways back, made apart
from each other: `ofJson` looks at the JSON value and chooses the kind, and `decode` tries the
kinds in their order and takes the first that fits.
-/

namespace Statements

namespace Scalar

theorem signed_least (n : Int64) : -0x8000000000000000 ≤ n.toInt := n.le_toInt

theorem signed_most (n : Int64) : n.toInt < 0x10000000000000000 :=
  Int.lt_trans n.toInt_lt (by decide)

theorem unsigned_least (n : UInt64) : -0x8000000000000000 ≤ (n.toNat : Int) := by omega

theorem unsigned_most (n : UInt64) : (n.toNat : Int) < 0x10000000000000000 := by
  have := n.toNat_lt
  omega

/-- The JSON value of a scalar. -/
def toJson : Scalar → Json
  | .null => .null
  | .bool b => .bool b
  | .signed n => .number (.integer ⟨n.toInt, signed_least n, signed_most n⟩)
  | .unsigned n => .number (.integer ⟨n.toNat, unsigned_least n, unsigned_most n⟩)
  | .float x =>
    match Json.Number.ofBinary64? x with
    | some number => .number number
    | none => .null
  | .text s => .string s

/-- The scalar of a JSON number: the signed range is asked first, then the unsigned one, and a
double stands for what neither holds. -/
def ofNumber (n : Json.Number) : Except Error Scalar :=
  match n.signed? with
  | some i => .ok (.signed i)
  | none =>
    match n.unsigned? with
    | some u => .ok (.unsigned u)
    | none =>
      match n.double? with
      | some x => .ok (.float x)
      | none => .error (.invalidArgument (.unsupportedNumber n))

/-- The scalar of a JSON value without parts. -/
def ofJson : Json → Except Error Scalar
  | .null => .ok .null
  | .bool b => .ok (.bool b)
  | .number n => ofNumber n
  | .string s => .ok (.text s)
  | other => .error (.invalidArgument (.notScalar other))

/-- The ways to read a JSON value as a scalar, in the order in which they are tried. -/
def kinds : List (Json.Decoder Scalar) :=
  [ fun json => match json with
      | .null => .ok .null
      | _ => .error .notScalar,
    fun json => (Json.Decoder.boolean json).map .bool,
    fun json => (Json.Decoder.integer .signed64 json).map fun n => .signed (Int64.ofInt n),
    fun json => (Json.Decoder.integer .unsigned64 json).map fun n =>
      .unsigned (UInt64.ofNat n.toNat),
    fun json => (Json.Decoder.float json).map .float,
    fun json => (Json.Decoder.string json).map .text ]

/-- The scalar of the first kind that reads the JSON value. -/
def decode : Json.Decoder Scalar := fun json =>
  match kinds.findSome? fun kind => (kind json).toOption with
  | some scalar => .ok scalar
  | none => .error .notScalar

/-- A scalar straight from the text. A JSON value with parts is read to its end before it is
refused. -/
def reader (depth : Nat) : Json.Reader Scalar := fun text => do
  let (json, rest) ← Json.Reader.value depth text
  match decode json with
  | .ok scalar => .ok (scalar, rest)
  | .error cause => .error (.mismatch cause)

/-- The scalar of a text. -/
def parse (text : String) : Except Json.TextFault Scalar :=
  Json.Reader.wholeText (reader Json.maxDepth) text

end Scalar

end Statements
