import Statements.Proofs.Scalar.Listing
import Statements.Proofs.TableName
import Statements.Upsert

/-!
# What an upsert statement says of its row

The statement lists the columns, and apart from them the literals, and the place alone says which
literal belongs to which column. Nothing in the text says how many there are. The list of columns
does not even show it, for no column and one column without a name are written alike.

The list of literals does: it can be read off, whatever stands inside quotes
(`Scalar.literals_append_unique`), and it is as long as the row. With the number known the columns
can be told apart too, because no name has a comma. So the text determines the table and the row,
up to values that are written alike (`built_unambiguous`).
-/

namespace Statements.Upsert

open Text (listing mem_listing append_cons_unique)

/-- The text that the calls of an upsert build. -/
def built (row : Row) (table : String) : Except Error String :=
  ((Draft.mk row).intoTable table).map Ready.text

/-- The statement over columns and their literals: one list of each, in the same order. -/
def statement (table : String) (pairs : Entries String) : String :=
  "UPSERT INTO " ++ table ++ " (" ++ ", ".intercalate (pairs.map Prod.fst) ++ ") VALUES (" ++
    ", ".intercalate (pairs.map Prod.snd) ++ ");"

/-- The columns of a row, each with its literal. -/
def literals (row : Row) : Entries String := row.entries.mapValues Scalar.literal

theorem names_literals (row : Row) : (literals row).map Prod.fst = row.columns := by
  rw [literals, Entries.mapValues, List.map_map]
  rfl

theorem values_literals (row : Row) :
    (literals row).map Prod.snd = row.scalars.map Scalar.literal := by
  rw [literals, Entries.mapValues, Row.scalars, List.map_map, List.map_map]
  rfl

/-- Any table with a name takes any row. -/
theorem built_eq_ok (row : Row) {table : String} (named : table ≠ "") :
    built row table = .ok (statement table (literals row)) := by
  have ready : (Draft.mk row).intoTable table = .ok ⟨row, table, named⟩ := by
    rw [Draft.intoTable, TableName.ofText_text ⟨table, named⟩]
    rfl
  rw [built, ready, Except.map]
  -- the equations of these definitions are slow to come by
  delta Ready.text rowClause statement
  rw [names_literals, values_literals]
  simp only [String.append_assoc]
  rfl

theorem toList_statement (table : String) (pairs : Entries String) :
    (statement table pairs).toList = "UPSERT INTO ".toList ++ (table.toList ++ ' ' :: '(' ::
      (listing (pairs.map Prod.fst) ++ ')' :: (" VALUES (".toList ++
        (listing (pairs.map Prod.snd) ++ ")".toList ++ ";".toList)))) := by
  delta statement
  simp only [listing, String.toList_append, List.append_assoc]
  rfl

/-- Nothing in the names and values hides where a part of the statement ends. -/
structure Readable (table : String) (pairs : Entries String) : Prop where
  table : ' ' ∉ table.toList
  noComma : ∀ column ∈ pairs.map Prod.fst, ',' ∉ column.toList
  noClose : ∀ column ∈ pairs.map Prod.fst, ')' ∉ column.toList
  literals : ∀ text ∈ pairs.map Prod.snd, Scalar.IsLiteral text

theorem Readable.not_mem_listing {table : String} {pairs : Entries String}
    (readable : Readable table pairs) : ')' ∉ listing (pairs.map Prod.fst) := by
  intro mem
  rcases mem_listing mem with ⟨column, among, close⟩ | comma | blank
  · exact readable.noClose column among close
  · cases comma
  · cases blank

theorem statement_unique {table other : String} {pairs others : Entries String}
    (left : Readable table pairs) (right : Readable other others)
    (same : statement table pairs = statement other others) : table = other ∧ pairs = others := by
  have chars := congrArg String.toList same
  rw [toList_statement, toList_statement] at chars
  obtain ⟨tables, behindTable⟩ :=
    append_cons_unique left.table right.table (List.append_cancel_left chars)
  obtain ⟨columns, behindColumns⟩ := append_cons_unique left.not_mem_listing
    right.not_mem_listing (List.cons.inj behindTable).2
  have lists := List.append_cancel_left behindColumns
  rw [List.append_assoc, List.append_assoc] at lists
  obtain ⟨values, -⟩ := Scalar.literals_append_unique left.literals right.literals lists
  -- the literals are as many as the columns
  have number : (pairs.map Prod.fst).length = (others.map Prod.fst).length := by
    simpa only [List.length_map] using congrArg List.length values
  have names := Text.listing_unique number left.noComma right.noComma columns
  refine ⟨String.toList_injective tables, ?_⟩
  rw [List.zip_of_prod names values, ← List.zip_of_prod rfl rfl]

/-- The table has a name without blanks, no column has a comma or a closing parenthesis, and no
text has a quote. -/
structure Tame (row : Row) (table : String) : Prop where
  named : table ≠ ""
  table : ' ' ∉ table.toList
  columns : ∀ column ∈ row.columns, ',' ∉ column.toList ∧ ')' ∉ column.toList
  scalars : ∀ scalar ∈ row.scalars, scalar.QuoteFree

theorem Tame.readable {row : Row} {table : String} (tame : Tame row table) :
    Readable table (literals row) := by
  refine ⟨tame.table, ?_, ?_, ?_⟩
  · rw [names_literals]
    exact fun column mem => (tame.columns column mem).1
  · rw [names_literals]
    exact fun column mem => (tame.columns column mem).2
  · rw [values_literals]
    exact Scalar.isLiteral_of_mem tame.scalars

/-- **An upsert statement determines its table and its row.** A row is written as one list of its
columns and one of its literals, in the same order, and two rows are written alike exactly if they
have the same size, the same columns in the same order, and literal for literal the same values. -/
theorem built_unambiguous {row other : Row} {table otherTable : String} (left : Tame row table)
    (right : Tame other otherTable) :
    built row table = .ok (statement table (literals row)) ∧
      (built row table = built other otherTable ↔
        table = otherTable ∧ row.size = other.size ∧ row.columns = other.columns ∧
          row.scalars.map Scalar.literal = other.scalars.map Scalar.literal) := by
  rw [built_eq_ok row left.named, built_eq_ok other right.named]
  refine ⟨rfl, ?_, ?_⟩
  · intro same
    obtain ⟨tables, pairs⟩ := statement_unique left.readable right.readable
      (Except.ok.inj same)
    have columns := congrArg (List.map Prod.fst) pairs
    have values := congrArg (List.map Prod.snd) pairs
    rw [names_literals, names_literals] at columns
    rw [values_literals, values_literals] at values
    have sizes := congrArg List.length columns
    simp only [Row.columns, Entries.names, List.length_map] at sizes
    exact ⟨tables, sizes, columns, values⟩
  · rintro ⟨rfl, -, columns, values⟩
    delta statement
    rw [names_literals, names_literals, values_literals, values_literals, columns, values]

/-- A column without a name, and in quotes what closes the list of columns. -/
def quoting (number : Scalar) : Row := .ofList [("", .text ") VALUES ("), ("a (b", number)]

theorem built_quoting :
    Tame (quoting (.signed 5)) "t" ∧ Tame (quoting (.unsigned 5)) "t" ∧
      built (quoting (.signed 5)) "t" = .ok "UPSERT INTO t (, a (b) VALUES (') VALUES (', 5);" ∧
      (quoting (.signed 5)).columns = (quoting (.unsigned 5)).columns ∧
      (quoting (.signed 5)).scalars.map Scalar.literal =
        (quoting (.unsigned 5)).scalars.map Scalar.literal ∧
      built .empty "t" ≠ built (.ofList [("", .text "")]) "t" := by
  have left : Tame (quoting (.signed 5)) "t" := ⟨by decide, by decide, by decide, by decide⟩
  have right : Tame (quoting (.unsigned 5)) "t" := ⟨by decide, by decide, by decide, by decide⟩
  have none : Tame .empty "t" := ⟨by decide, by decide, by decide, by decide⟩
  have nameless : Tame (.ofList [("", .text "")]) "t" :=
    ⟨by decide, by decide, by decide, by decide⟩
  obtain ⟨text, unambiguous⟩ := built_unambiguous left right
  obtain ⟨-, -, columns, literals⟩ := unambiguous.mp rfl
  refine ⟨left, right, text.trans (congrArg Except.ok (by decide)), columns, literals,
    fun same => ?_⟩
  obtain ⟨-, sizes, -⟩ := (built_unambiguous none nameless).2.mp same
  cases sizes

end Statements.Upsert
