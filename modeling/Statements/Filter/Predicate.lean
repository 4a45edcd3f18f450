import Statements.Filter.Operator
import Statements.Scalar.Conversion

/-!
# Predicates

A predicate is one condition of a filter: a fragment of the query language as it is, a column
compared with a scalar, or a column compared with a list of scalars. Its text stands without
parentheses of its own; the filter adds them.
-/

namespace Statements

inductive Predicate where
  | raw (fragment : String)
  | compare (column : String) (operator : Operator) (value : Scalar)
  | list (column : String) (operator : Operator) (values : List Scalar)

namespace Predicate

/-- Predicates agree when they are of one form and their parts agree. -/
def agrees : Predicate → Predicate → Bool
  | .raw f, .raw g => f = g
  | .compare c o v, .compare d p w => c = d && o = p && v == w
  | .list c o vs, .list d p ws => c = d && o = p && vs == ws
  | _, _ => false

instance : BEq Predicate := ⟨agrees⟩

def equal (column : String) (value : Scalar) : Predicate := .compare column .equal value

def isNull (column : String) : Predicate := .compare column .isNull .null

def isNotNull (column : String) : Predicate := .compare column .isNotNull .null

def inList (column : String) (values : List Scalar) : Predicate := .list column .isIn values

def notInList (column : String) (values : List Scalar) : Predicate := .list column .notIn values

/-- The literals of a list, with commas between them, in parentheses. -/
def literalList (values : List Scalar) : String :=
  "(" ++ ", ".intercalate (values.map Scalar.literal) ++ ")"

/-- The right side of a comparison with one value: nothing for a null check, a list of one for the
list operators, else the literal. -/
def operand (operator : Operator) (value : Scalar) : String :=
  if operator.isUnary then ""
  else if operator.takesList then " " ++ literalList [value]
  else " " ++ value.literal

/-- The text of a predicate, without parentheses around it. -/
def text : Predicate → String
  | .raw fragment => fragment
  | .compare column operator value => column ++ " " ++ operator.text ++ operand operator value
  | .list column operator values =>
    column ++ " " ++ operator.text ++ " " ++ literalList values

end Predicate

end Statements
