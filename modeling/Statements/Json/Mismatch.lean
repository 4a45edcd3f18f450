import Statements.Json.Printer
import Statements.Text.Quoted

/-!
# JSON of another shape than wanted

A reader that wants a number and finds a string answers a `Mismatch`. The causes are kept apart;
the wording is in `Mismatch.message` alone.
-/

namespace Statements

namespace Json

/-- A range of integers, with the name that messages give it. -/
structure IntegerRange where
  name : String
  least : Int
  most : Int
deriving DecidableEq

namespace IntegerRange

/-- The unsigned 32-bit integers. -/
def unsigned32 : IntegerRange := ⟨"u32", 0, 0xFFFFFFFF⟩

/-- The unsigned 64-bit integers. -/
def unsigned64 : IntegerRange := ⟨"u64", 0, 0xFFFFFFFFFFFFFFFF⟩

/-- The signed 64-bit integers. -/
def signed64 : IntegerRange := ⟨"i64", -0x8000000000000000, 0x7FFFFFFFFFFFFFFF⟩

/-- The integer lies in the range. -/
def holds (range : IntegerRange) (n : Int) : Bool := range.least ≤ n && n ≤ range.most

theorem holds_iff {range : IntegerRange} {n : Int} :
    range.holds n = true ↔ range.least ≤ n ∧ n ≤ range.most := by
  rw [holds, Bool.and_eq_true, decide_eq_true_eq, decide_eq_true_eq]

end IntegerRange

/-- What a reader wants. -/
inductive Wanted where
  | integer (range : IntegerRange)
  | float
  | boolean
  | string
  | columns
deriving DecidableEq

def Wanted.description : Wanted → String
  | .integer range => range.name
  | .float => "f64"
  | .boolean => "a boolean"
  | .string => "a string"
  | .columns => "a map of column names to scalar values"

/-- What was found, as messages name it: scalars with their value, the others by their kind. -/
def description : Json → String
  | .null => "null"
  | .bool b => "boolean `" ++ String.ofList (boolChars b) ++ "`"
  | .number (.integer n) => "integer `" ++ String.ofList (integerChars n.val) ++ "`"
  | .number (.float x _) => "floating point `" ++ String.ofList (floatLayout.chars x) ++ "`"
  | .string s => "string " ++ Text.quoted s
  | .array _ => "sequence"
  | .object _ => "map"

/-- Why a JSON value was not read. -/
inductive Mismatch where
  /-- A value of another kind. -/
  | wrongType (found : Json) (wanted : Wanted)
  /-- An integer that the wanted range does not hold. -/
  | outOfRange (found : Int) (wanted : IntegerRange)
  /-- A member that has to be there and is not. -/
  | missingField (name : String)
  /-- A member that is there once more. -/
  | duplicateField (name : String)
  /-- An array or an object where a scalar has to stand. -/
  | notScalar

def Mismatch.message : Mismatch → String
  | .wrongType found wanted =>
    "invalid type: " ++ found.description ++ ", expected " ++ wanted.description
  | .outOfRange found wanted =>
    "invalid value: integer `" ++ String.ofList (integerChars found) ++ "`, expected " ++
      wanted.name
  | .missingField name => "missing field `" ++ name ++ "`"
  | .duplicateField name => "duplicate field `" ++ name ++ "`"
  | .notScalar => "data did not match any variant of untagged enum Value"

end Json

end Statements
