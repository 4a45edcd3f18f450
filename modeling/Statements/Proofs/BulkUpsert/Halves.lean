import Mathlib.Data.List.Basic
import Statements.BulkUpsert
import Statements.Proofs.TableName
import Statements.Proofs.Text.Lines

/-!
# What the two halves of a bulk upsert say of its shape

The first statement declares a column and its type on each line, the second selects a column on
each line, and both take as many lines for it. A declaring line alone is ambiguous, since a type
may contain whatever separates it from its column, and so may the column. The selecting line in
the same place says where the column ends.

So the halves are read together, line by line (`Halves`), and the text determines the table, the
parameter and the columns with their types (`built_determines_shape`). A shape without columns is
told from one that selects a column without a name by the declaration, which has a colon for every
column.
-/

namespace Statements

open Text (OneLine listed)

namespace RowShape

/-- A column and its type as they are declared. -/
def member (field : String × String) : String := field.1 ++ ": " ++ field.2

/-- The lines that declare the columns. -/
def declared (shape : RowShape) : List String := listed ">>;" (shape.fields.map member)

/-- The lines that select the columns. -/
def selected (shape : RowShape) : List String := listed "" shape.columns

theorem member_ne_empty (field : String × String) : member field ≠ "" := by
  intro empty
  have colon := (String.append_eq_empty_iff.mp (String.append_eq_empty_iff.mp empty).1).2
  exact absurd colon (by decide)

theorem empty_not_mem_members (fields : List (String × String)) : "" ∉ fields.map member := by
  intro mem
  obtain ⟨field, -, empty⟩ := List.mem_map.mp mem
  exact member_ne_empty field empty

theorem length_declared (shape : RowShape) : shape.declared.length = max 1 shape.fields.length := by
  rw [declared, Text.length_listed, List.length_map]

theorem length_selected (shape : RowShape) : shape.selected.length = max 1 shape.fields.length := by
  rw [selected, Text.length_listed, columns, List.length_map]

/-- **Both halves together determine the columns with their types.** The declaring lines say how
many there are, the selecting lines name them, and what is left of a declaring line is the type. -/
theorem fields_unique {shape other : RowShape} (declaredAlike : shape.declared = other.declared)
    (selectedAlike : shape.selected = other.selected) : shape.fields = other.fields := by
  have number := Text.length_eq_of_listed_eq (empty_not_mem_members shape.fields)
    (empty_not_mem_members other.fields) declaredAlike
  have members := Text.listed_unique number declaredAlike
  have columns : shape.fields.map Prod.fst = other.fields.map Prod.fst := by
    refine Text.listed_unique ?_ selectedAlike
    simpa only [List.length_map] using number
  have both : shape.fields.map (fun field => (field.1, member field)) =
      other.fields.map (fun field => (field.1, member field)) := by
    rw [← List.zip_map', ← List.zip_map', columns, members]
  have typed : Function.Injective fun field : String × String => (field.1, member field) := by
    rintro ⟨column, typeName⟩ ⟨column', typeName'⟩ same
    obtain ⟨rfl, declaration⟩ := Prod.mk.inj same
    obtain rfl : typeName = typeName' := (String.append_right_inj _).mp declaration
    rfl
  exact List.map_injective_iff.mpr typed both

end RowShape

namespace BulkUpsert

/-- The text that the calls of a bulk upsert build. -/
def built (shape : RowShape) (table : String) : Except Error String :=
  ((Draft.mk shape).intoTable table).map Ready.text

/-- The lines that declare a parameter. -/
def declaring (parameter : String) (declared : List String) : List String :=
  ("DECLARE " ++ parameter ++ " AS List<Struct<") :: declared

/-- The lines that insert what the parameter holds. -/
def inserting (parameter table : String) (selected : List String) : List String :=
  ("UPSERT INTO " ++ table) :: "SELECT" :: (selected ++ ["FROM AS_TABLE(" ++ parameter ++ ");"])

/-- The lines of both statements, with an empty line between them. -/
def statements (parameter table : String) (declared selected : List String) : List String :=
  declaring parameter declared ++ "" :: inserting parameter table selected

theorem declaration_eq (shape : RowShape) :
    shape.declaration = "\n".intercalate (declaring shape.parameter shape.declared) ++ "\n" := by
  have text : shape.declaration = "DECLARE " ++ shape.parameter ++ (" AS List<Struct<" ++ "\n") ++
      ",\n".intercalate (shape.fields.map RowShape.member) ++ (">>;" ++ "\n") := rfl
  rw [text, declaring, RowShape.declared, String.intercalate_cons_of_ne_nil Text.listed_ne_nil,
    Text.intercalate_listed]
  simp only [String.append_assoc]

theorem insertion_eq (shape : RowShape) (table : TableName) :
    shape.insertion table =
      "\n".intercalate (inserting shape.parameter table.text shape.selected) := by
  have below : shape.selected ++ ["FROM AS_TABLE(" ++ shape.parameter ++ ");"] ≠ [] := by simp
  rw [inserting, String.intercalate_cons_cons, String.intercalate_cons_of_ne_nil below,
    RowShape.selected,
    String.intercalate_append_of_ne_nil Text.listed_ne_nil (List.cons_ne_nil _ _),
    Text.intercalate_listed, String.intercalate_singleton]
  delta RowShape.insertion
  simp only [String.append_assoc]
  rfl

/-- Any table with a name takes rows of any shape. -/
theorem built_eq_ok (shape : RowShape) {table : String} (named : table ≠ "") :
    built shape table = .ok ("\n".intercalate
      (statements shape.parameter table shape.declared shape.selected)) := by
  have ready : (Draft.mk shape).intoTable table = .ok ⟨shape, table, named⟩ := by
    rw [Draft.intoTable, TableName.ofText_text ⟨table, named⟩]
    rfl
  have above : declaring shape.parameter shape.declared ≠ [] := List.cons_ne_nil _ _
  have below : inserting shape.parameter table shape.selected ≠ [] := List.cons_ne_nil _ _
  rw [built, ready, Except.map, Ready.text, declaration_eq, insertion_eq, statements,
    String.intercalate_append_of_ne_nil above (List.cons_ne_nil _ _),
    String.intercalate_cons_of_ne_nil below, String.empty_append]
  simp only [String.append_assoc]

/-! ## Reading the lines -/

/-- No text has a newline, and the table has a name. -/
structure Tame (shape : RowShape) (table : String) : Prop where
  named : table ≠ ""
  table : OneLine table
  parameter : OneLine shape.parameter
  fields : ∀ field ∈ shape.fields, OneLine field.1 ∧ OneLine field.2

theorem Tame.oneLine_declared {shape : RowShape} {table : String} (tame : Tame shape table) :
    ∀ line ∈ shape.declared, OneLine line := by
  refine Text.oneLine_listed (by decide) ?_
  intro text mem
  obtain ⟨field, among, rfl⟩ := List.mem_map.mp mem
  obtain ⟨column, typeName⟩ := tame.fields field among
  exact (column.append (by decide)).append typeName

theorem Tame.oneLine_selected {shape : RowShape} {table : String} (tame : Tame shape table) :
    ∀ line ∈ shape.selected, OneLine line := by
  refine Text.oneLine_listed (by decide) ?_
  intro text mem
  obtain ⟨field, among, rfl⟩ := List.mem_map.mp mem
  exact (tame.fields field among).1

theorem Tame.oneLine_statements {shape : RowShape} {table : String} (tame : Tame shape table) :
    ∀ line ∈ statements shape.parameter table shape.declared shape.selected, OneLine line := by
  have declares : OneLine ("DECLARE " ++ shape.parameter ++ " AS List<Struct<") :=
    (OneLine.append (by decide) tame.parameter).append (by decide)
  have inserts : OneLine ("UPSERT INTO " ++ table) := OneLine.append (by decide) tame.table
  have takes : OneLine ("FROM AS_TABLE(" ++ shape.parameter ++ ");") :=
    (OneLine.append (by decide) tame.parameter).append (by decide)
  have empty : OneLine "" := by decide
  have select : OneLine "SELECT" := by decide
  have inserting : ∀ line ∈ inserting shape.parameter table shape.selected, OneLine line := by
    refine List.forall_mem_cons.mpr ⟨inserts, List.forall_mem_cons.mpr ⟨select, ?_⟩⟩
    exact List.forall_mem_append.mpr ⟨tame.oneLine_selected, List.forall_mem_singleton.mpr takes⟩
  refine List.forall_mem_append.mpr ⟨?_, List.forall_mem_cons.mpr ⟨empty, inserting⟩⟩
  exact List.forall_mem_cons.mpr ⟨declares, tame.oneLine_declared⟩

theorem statements_unique {parameter parameter' table table' : String}
    {declared declared' selected selected' : List String}
    (left : declared.length = selected.length) (right : declared'.length = selected'.length)
    (same : statements parameter table declared selected =
      statements parameter' table' declared' selected') :
    table = table' ∧ parameter = parameter' ∧ declared = declared' ∧ selected = selected' := by
  -- as many lines in all, so both halves take as many on either side
  have lengths := congrArg List.length same
  simp only [statements, declaring, inserting, List.length_append, List.length_cons,
    List.length_nil] at lengths
  have number : declared.length = declared'.length := by omega
  obtain ⟨declaringAlike, between⟩ := List.append_inj same (by simpa [declaring] using number)
  obtain ⟨first, declaredAlike⟩ := List.cons.inj declaringAlike
  obtain ⟨into, below⟩ := List.cons.inj (List.cons.inj between).2
  obtain ⟨selectedAlike, -⟩ := List.append_inj (List.cons.inj below).2 (by omega)
  rw [String.append_left_inj, String.append_right_inj] at first
  rw [String.append_right_inj] at into
  exact ⟨into, first, declaredAlike, selectedAlike⟩

/-- The halves of the statements, line by line: the same columns in the same order, each with its
type where it is declared, and a line without a column in each half if there are none. -/
structure Halves (shape : RowShape) (declared selected : List String) : Prop where
  declared_length : declared.length = max 1 shape.fields.length
  selected_length : selected.length = max 1 shape.fields.length
  column : ∀ {k : Nat} {column typeName : String}, shape.fields[k]? = some (column, typeName) →
    declared[k]? =
        some (column ++ ": " ++ typeName ++ if k + 1 = shape.fields.length then ">>;" else ",") ∧
      selected[k]? = some (column ++ if k + 1 = shape.fields.length then "" else ",")
  noColumns : shape.fields = [] → declared = [">>;"] ∧ selected = [""]

theorem halves (shape : RowShape) : Halves shape shape.declared shape.selected := by
  refine ⟨shape.length_declared, shape.length_selected, ?_, ?_⟩
  · intro k column typeName stands
    have member : (shape.fields.map RowShape.member)[k]? = some (column ++ ": " ++ typeName) := by
      rw [List.getElem?_map, stands]
      rfl
    have name : shape.columns[k]? = some column := by
      rw [RowShape.columns, List.getElem?_map, stands]
      rfl
    have number : shape.columns.length = shape.fields.length := List.length_map _
    rw [RowShape.declared, RowShape.selected, Text.getElem?_listed member,
      Text.getElem?_listed name, List.length_map, number]
    exact ⟨rfl, rfl⟩
  · intro none
    rw [RowShape.declared, RowShape.selected, RowShape.columns, none]
    exact ⟨rfl, rfl⟩

theorem eq_of_built_eq {shape other : RowShape} {table otherTable : String}
    (left : Tame shape table) (right : Tame other otherTable)
    (same : built shape table = built other otherTable) :
    table = otherTable ∧ shape.parameter = other.parameter ∧ shape.fields = other.fields := by
  rw [built_eq_ok shape left.named, built_eq_ok other right.named] at same
  have lines := Text.lines_unique (List.cons_ne_nil _ _) (List.cons_ne_nil _ _)
    left.oneLine_statements right.oneLine_statements (Except.ok.inj same)
  have even := fun shape : RowShape => shape.length_declared.trans shape.length_selected.symm
  obtain ⟨tables, parameters, declared, selected⟩ :=
    statements_unique (even shape) (even other) lines
  exact ⟨tables, parameters, RowShape.fields_unique declared selected⟩

/-- **A bulk upsert determines its table and its shape.** Into any table the two halves of the text
agree line by line, and without newlines in the names no other table, parameter or list of columns
with their types gives the same text. -/
theorem built_determines_shape :
    (∀ {shape : RowShape} {table : String}, table ≠ "" → ∃ declared selected : List String,
      built shape table =
          .ok ("\n".intercalate (statements shape.parameter table declared selected)) ∧
        Halves shape declared selected) ∧
    ∀ {shape other : RowShape} {table otherTable : String}, Tame shape table →
      Tame other otherTable →
        (built shape table = built other otherTable ↔
          table = otherTable ∧ shape.parameter = other.parameter ∧
            shape.fields = other.fields) := by
  constructor
  · intro shape table named
    exact ⟨shape.declared, shape.selected, built_eq_ok shape named, halves shape⟩
  · intro shape other table otherTable left right
    constructor
    · exact eq_of_built_eq left right
    · obtain ⟨parameter, fields⟩ := shape
      obtain ⟨parameter', fields'⟩ := other
      rintro ⟨rfl, parameters, columns⟩
      obtain rfl : parameter = parameter' := parameters
      obtain rfl : fields = fields' := columns
      rfl

/-- The colon of the declaration stands behind a short name. -/
def shortName : RowShape := ⟨"$rows", [("a", "b: Decimal(22,9)"), ("", "")]⟩

/-- The same declaration, where an earlier colon belongs to the name. -/
def longName : RowShape := ⟨"$rows", [("a: b", "Decimal(22,9)"), ("", "")]⟩

theorem built_colons :
    Tame shortName "t" ∧ Tame longName "t" ∧ shortName.declaration = longName.declaration ∧
      built shortName "t" ≠ built longName "t" ∧
      built (.ofParameter "$rows") "t" ≠ built ⟨"$rows", [("", "")]⟩ "t" ∧
      ∃ declared selected : List String,
        built shortName "t" =
            .ok ("\n".intercalate (statements "$rows" "t" declared selected)) ∧
          Halves shortName declared selected := by
  have left : Tame shortName "t" := ⟨by decide, by decide, by decide, by decide⟩
  have right : Tame longName "t" := ⟨by decide, by decide, by decide, by decide⟩
  have none : Tame (.ofParameter "$rows") "t" := ⟨by decide, by decide, by decide, by decide⟩
  have nameless : Tame ⟨"$rows", [("", "")]⟩ "t" :=
    ⟨by decide, by decide, by decide, by decide⟩
  refine ⟨left, right, by decide, fun same => ?_, fun same => ?_,
    built_determines_shape.1 left.named⟩
  · obtain ⟨-, -, fields⟩ := (built_determines_shape.2 left right).mp same
    exact absurd fields (by decide)
  · obtain ⟨-, -, fields⟩ := (built_determines_shape.2 none nameless).mp same
    cases fields

end BulkUpsert

end Statements
