import Statements.Row.Json

/-!
# Outcomes of statements

A database answers a statement with success, with the rows of a result, or with a failure code.
-/

namespace Statements

inductive Outcome where
  | success
  | rows (rows : List Row)
  | failure (code : UInt16)
deriving BEq

namespace Outcome

/-- The status of a statement that succeeded without rows. -/
def successCode : UInt16 := 200

/-- The status that a failed statement usually has. -/
def failureCode : UInt16 := 500

def isSuccess : Outcome → Bool
  | .failure _ => false
  | _ => true

/-- The status, which an answer with rows does not have. -/
def status? : Outcome → Option UInt16
  | .success => some successCode
  | .rows _ => none
  | .failure code => some code

def failureCode? : Outcome → Option UInt16
  | .failure code => some code
  | _ => none

/-- The rows, of which only an answer with rows has any. -/
def rowList : Outcome → List Row
  | .rows list => list
  | _ => []

/-- The rows, or the failure as an error. -/
def result : Outcome → Except Error (List Row)
  | .success => .ok []
  | .rows list => .ok list
  | .failure code => .error (.executionFailed code)

/-- Every row read as a value of another type by way of its JSON members. The first row that is
not read tells the error. -/
def decodeRows {α : Type} (read : Entries Json → Except Json.Mismatch α) (outcome : Outcome) :
    Except Error (List α) := do
  (← outcome.result).mapM fun row =>
    match read row.members with
    | .ok value => .ok value
    | .error cause => .error (.mismatch cause)

end Outcome

end Statements
