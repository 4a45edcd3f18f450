import Statements.Row.Basic
import Statements.TableName

/-!
# Upserts of one row

The statement names the row's columns and gives their literals in the same order. The row is not
checked: it may be empty, repeat a column, or lack the key of the table.
-/

namespace Statements

namespace Upsert

/-- A row without a table. -/
structure Draft where
  row : Row

/-- A row and the table that takes it. -/
structure Ready where
  row : Row
  table : TableName

def Draft.intoTable (draft : Draft) (table : String) : Except Error Ready :=
  (TableName.ofText table).map fun table => ⟨draft.row, table⟩

/-- The columns and the literals, each list in parentheses. -/
def rowClause (row : Row) : String :=
  "(" ++ ", ".intercalate row.columns ++ ") VALUES (" ++
    ", ".intercalate (row.scalars.map Scalar.literal) ++ ")"

/-- The statement. -/
def Ready.text (upsert : Ready) : String :=
  "UPSERT INTO " ++ upsert.table.text ++ " " ++ rowClause upsert.row ++ ";"

end Upsert

end Statements
