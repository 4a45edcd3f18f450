import Statements.Entries
import Statements.Scalar.Conversion

/-!
# Rows

A row gives columns their scalars, in the order in which statements name them. A column may be
given twice: both entries are kept and both are written, and looking the column up answers the
first.
-/

namespace Statements

/-- Columns with their scalars, in order, repetitions kept. -/
structure Row where
  entries : Entries Scalar
deriving BEq

namespace Row

def empty : Row := ⟨[]⟩

def ofList (entries : List (String × Scalar)) : Row := ⟨entries⟩

/-- The row with one more column at its end. -/
def push (row : Row) (column : String) (value : Scalar) : Row :=
  ⟨row.entries ++ [(column, value)]⟩

/-- The first scalar given to the column. -/
def get? (row : Row) (column : String) : Option Scalar := row.entries.first? column

def columns (row : Row) : List String := row.entries.names

def scalars (row : Row) : List Scalar := row.entries.map Prod.snd

def size (row : Row) : Nat := row.entries.length

def isEmpty (row : Row) : Bool := row.entries.isEmpty

def toList (row : Row) : List (String × Scalar) := row.entries

end Row

end Statements
