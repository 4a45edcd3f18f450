/-!
# Comparison operators

An operator is the text that stands between a column and a value. Twelve operators have a name
here; any other text is an operator of the dialect. Two operators are the same when their texts
are, however they came about.
-/

namespace Statements

/-- The text of a comparison. -/
structure Operator where
  text : String
deriving DecidableEq

namespace Operator

def greater : Operator := ⟨">"⟩
def less : Operator := ⟨"<"⟩
def equal : Operator := ⟨"="⟩
def notEqual : Operator := ⟨"!="⟩
def atLeast : Operator := ⟨">="⟩
def atMost : Operator := ⟨"<="⟩
def like : Operator := ⟨"LIKE"⟩
def ilike : Operator := ⟨"ILIKE"⟩
def isIn : Operator := ⟨"IN"⟩
def notIn : Operator := ⟨"NOT IN"⟩
def isNull : Operator := ⟨"IS NULL"⟩
def isNotNull : Operator := ⟨"IS NOT NULL"⟩

/-- The operator of a spelling: the second spelling of a comparison and the words in small letters
mean the named operators, and any other text stands for itself. -/
def ofSpelling (spelling : String) : Operator :=
  match spelling with
  | "==" => equal
  | "<>" => notEqual
  | "like" => like
  | "ilike" => ilike
  | "in" => isIn
  | "not in" => notIn
  | "is null" => isNull
  | "is not null" => isNotNull
  | other => ⟨other⟩

/-- The operator takes no value on its right. -/
def isUnary (operator : Operator) : Bool := operator = isNull || operator = isNotNull

/-- The operator takes a list of values in parentheses. -/
def takesList (operator : Operator) : Bool := operator = isIn || operator = notIn

end Operator

end Statements
