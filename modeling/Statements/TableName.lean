import Statements.Error

/-!
# Table names

Every statement names a table, and the empty text names none. Any other text is taken, blanks and
quotes included.
-/

namespace Statements

/-- A text that is not empty. -/
structure TableName where
  text : String
  nonempty : text ≠ ""
deriving DecidableEq

def TableName.ofText (text : String) : Except Error TableName :=
  if h : text ≠ "" then .ok ⟨text, h⟩ else .error (.invalidArgument .noTable)

end Statements
