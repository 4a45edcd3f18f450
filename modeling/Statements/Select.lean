import Statements.Filter.Clause
import Statements.TableName

/-!
# Select statements

A select statement grows in five stages, each a type of its own that offers the calls legal from
it: columns are drafted, a table is named, conditions are added, then an order, a limit and an
offset may follow, in this order. What a stage cannot have yet it has no field for, so that a
limit before a table, or a condition after an order, cannot be written down.

A stage from the table on is a `Query`, and the text of a query puts the clauses in their fixed
order.
-/

namespace Statements

namespace Select

/-- The number of rows that a limit is meant to stay within. Nothing enforces it. -/
def maxRows : Nat := 1000

/-- Columns without a table. No columns stand for all of them. -/
structure Draft where
  columns : List String

/-- A table is named. Conditions may be added. -/
structure Source where
  columns : List String
  table : TableName
  filter : Filter

/-- The rows are ordered by a column. -/
structure Ordered where
  source : Source
  column : String

/-- The number of rows is limited. The order is absent if none was given. -/
structure Limited where
  source : Source
  order : Option String
  limit : Scalar

/-- Some of the first rows are passed over. -/
structure Paged where
  limited : Limited
  offset : Scalar

/-- The table to select from. -/
def Draft.fromTable (draft : Draft) (table : String) : Except Error Source :=
  (TableName.ofText table).map fun table => ⟨draft.columns, table, .empty⟩

/-- Add a group of conditions that have to hold as well. -/
def Source.andWhere (source : Source) (group : List Predicate) : Source :=
  { source with filter := source.filter.push .and group }

/-- Add a group of conditions each of which may hold instead. -/
def Source.orWhere (source : Source) (group : List Predicate) : Source :=
  { source with filter := source.filter.push .or group }

def Source.orderBy (source : Source) (column : String) : Ordered := ⟨source, column⟩

def Source.limit (source : Source) (rows : Scalar) : Limited := ⟨source, none, rows⟩

def Ordered.limit (ordered : Ordered) (rows : Scalar) : Limited :=
  ⟨ordered.source, some ordered.column, rows⟩

def Limited.offset (limited : Limited) (rows : Scalar) : Paged := ⟨limited, rows⟩

/-- The clauses of a select statement that can be built. -/
structure Query where
  columns : List String
  table : TableName
  filter : Filter
  order : Option String
  limit : Option Scalar
  offset : Option Scalar

def Source.query (source : Source) : Query :=
  ⟨source.columns, source.table, source.filter, none, none, none⟩

def Ordered.query (ordered : Ordered) : Query :=
  { ordered.source.query with order := some ordered.column }

def Limited.query (limited : Limited) : Query :=
  { limited.source.query with order := limited.order, limit := some limited.limit }

def Paged.query (paged : Paged) : Query :=
  { paged.limited.query with offset := some paged.offset }

namespace Query

/-- The columns with commas between them, or the star if there are none. -/
def columnText (columns : List String) : String :=
  if columns = [] then "*" else ", ".intercalate columns

/-- A clause after a blank, or nothing. -/
def clause : Option String → String
  | some text => " " ++ text
  | none => ""

def orderClause? (query : Query) : Option String :=
  query.order.map fun column => "ORDER BY " ++ column

def limitClause? (query : Query) : Option String :=
  query.limit.map fun rows => "LIMIT " ++ rows.bare

/-- An offset that is not truthy, such as zero, is left out. -/
def offsetClause? (query : Query) : Option String :=
  (query.offset.filter Scalar.isTruthy).map fun rows => "OFFSET " ++ rows.bare

/-- The statement: columns, table, conditions, order, limit and offset, each clause only if it is
there. -/
def text (query : Query) : String :=
  "SELECT " ++ columnText query.columns ++ " FROM " ++ query.table.text ++
    clause query.filter.text? ++ clause query.orderClause? ++ clause query.limitClause? ++
    clause query.offsetClause? ++ ";"

end Query

end Select

end Statements
