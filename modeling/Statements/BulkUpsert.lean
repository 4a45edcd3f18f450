import Statements.Parameters
import Statements.TableName

/-!
# Upserts of many rows

The rows do not stand in the text. One statement declares a parameter that holds a list of rows of
a given shape, a second inserts what the parameter holds, and the rows are bound to the parameter
when the statements are executed. Both statements name the columns in the order of the shape.
-/

namespace Statements

/-- The parameter that holds the rows, and the columns of a row with the names of their types. -/
structure RowShape where
  parameter : String
  fields : List (String × String)
deriving DecidableEq

namespace RowShape

def ofParameter (parameter : String) : RowShape := ⟨parameter, []⟩

/-- The shape with one more column. -/
def field (shape : RowShape) (column typeName : String) : RowShape :=
  { shape with fields := shape.fields ++ [(column, typeName)] }

def columns (shape : RowShape) : List String := shape.fields.map Prod.fst

/-- The declaration of the parameter, with a column and its type on each line. -/
def declaration (shape : RowShape) : String :=
  "DECLARE " ++ shape.parameter ++ " AS List<Struct<\n" ++
    ",\n".intercalate (shape.fields.map fun (column, typeName) => column ++ ": " ++ typeName) ++
    ">>;\n"

/-- The statement that inserts the rows of the parameter. -/
def insertion (shape : RowShape) (table : TableName) : String :=
  "UPSERT INTO " ++ table.text ++ "\nSELECT\n" ++ ",\n".intercalate shape.columns ++
    "\nFROM AS_TABLE(" ++ shape.parameter ++ ");"

end RowShape

namespace BulkUpsert

/-- A shape without a table. -/
structure Draft where
  shape : RowShape

/-- A shape and the table that takes the rows. -/
structure Ready where
  shape : RowShape
  table : TableName

def Draft.intoTable (draft : Draft) (table : String) : Except Error Ready :=
  (TableName.ofText table).map fun table => ⟨draft.shape, table⟩

/-- The two statements, a line apart. -/
def Ready.text (upsert : Ready) : String :=
  upsert.shape.declaration ++ "\n" ++ upsert.shape.insertion upsert.table

/-- Bind rows to the declared parameter. The rows are not checked against the shape. -/
def Ready.bind (upsert : Ready) (rows : List Row) : Parameters :=
  Parameters.empty.bindRows upsert.shape.parameter rows

end BulkUpsert

end Statements
