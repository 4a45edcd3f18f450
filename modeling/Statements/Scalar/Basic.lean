import Statements.Binary64.Layout
import Statements.Json.Printer

/-!
# Scalars and their texts in statements

A scalar is what a row holds in a column, what a predicate compares with, and what a limit or an
offset is given. It has two texts in a statement. `bare` is the plain text. `literal` puts a text
in single quotes, and the quotes inside it stay as they are: a statement is only as unambiguous as
the texts that are put into it.

Equality of scalars follows equality of numbers on doubles, so a scalar that is no number differs
from itself, and the two zeros are equal although their texts differ.
-/

namespace Statements

instance : BEq Binary64 := ⟨Binary64.agrees⟩

/-- A value without parts. Two ranges of integers are kept apart: an unsigned integer is meant for
what the signed range does not hold. -/
inductive Scalar where
  | null
  | bool (b : Bool)
  | signed (n : Int64)
  | unsigned (n : UInt64)
  | float (x : Binary64)
  | text (s : String)
deriving BEq

namespace Scalar

/-- Doubles stand in statements without an exponent, and a whole number without a point; of two
equally near decimals the upper one is taken. -/
def floatLayout : Binary64.Layout where
  plain _ := true
  wholeFraction := false
  tie := .upward

/-- The text of a double in a statement. -/
def floatText (x : Binary64) : String :=
  if x.isNaN then "NaN"
  else if x.isFinite then String.ofList (floatLayout.chars x)
  else if x.isNegative then "-inf"
  else "inf"

def isNull : Scalar → Bool
  | .null => true
  | _ => false

/-- The plain text, as limits and offsets take it. -/
def bare : Scalar → String
  | .null => "null"
  | .bool b => String.ofList (Json.boolChars b)
  | .signed n => String.ofList (Json.integerChars n.toInt)
  | .unsigned n => String.ofList (Nat.toDigits 10 n.toNat)
  | .float x => floatText x
  | .text s => s

/-- The literal that stands for the scalar in a predicate or a list of values. -/
def literal : Scalar → String
  | .text s => "'" ++ s ++ "'"
  | other => other.bare

/-- Whether an optional clause is written for the scalar: not for null, false, a zero, a double
that is no number and the empty text. -/
def isTruthy : Scalar → Bool
  | .null => false
  | .bool b => b
  | .signed n => n.toInt ≠ 0
  | .unsigned n => n.toNat ≠ 0
  | .float x => !x.isZero && !x.isNaN
  | .text s => s ≠ ""

end Scalar

end Statements
