import Statements.Row.Basic

/-!
# Bound parameters

A statement is handed over with named parameters. Binding only ever appends: a name may be bound
again, both entries are handed over, and looking the name up answers the first.
-/

namespace Statements

/-- What a name is bound to. -/
inductive Parameter where
  | value (scalar : Scalar)
  | rows (rows : List Row)
deriving BEq

/-- Named parameters in the order in which they were bound. -/
structure Parameters where
  entries : Entries Parameter
deriving BEq

namespace Parameters

def empty : Parameters := ⟨[]⟩

/-- Bind one more parameter. -/
def push (parameters : Parameters) (name : String) (parameter : Parameter) : Parameters :=
  ⟨parameters.entries ++ [(name, parameter)]⟩

def bind (parameters : Parameters) (name : String) (value : Scalar) : Parameters :=
  parameters.push name (.value value)

def bindRows (parameters : Parameters) (name : String) (rows : List Row) : Parameters :=
  parameters.push name (.rows rows)

/-- What the name was bound to first. -/
def get? (parameters : Parameters) (name : String) : Option Parameter :=
  parameters.entries.first? name

/-- The number of bound entries, repetitions counted. -/
def size (parameters : Parameters) : Nat := parameters.entries.length

def isEmpty (parameters : Parameters) : Bool := parameters.entries.isEmpty

end Parameters

end Statements
