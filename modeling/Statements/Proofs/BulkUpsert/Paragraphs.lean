import Statements.Proofs.BulkUpsert.Halves
import Statements.Proofs.Text.Paragraphs

/-!
# Where the text of a bulk upsert is cut

The two statements of a bulk upsert have an empty line between them, and whoever takes the text
apart again relies on there being no other. Of the lines that are written, each but one has a
character of its own: a declaring line has its comma or the closing brackets, a selecting line has
its comma, and only the line that selects the last column has nothing but the name.

So the text is cut into its two statements exactly if the last column has a name. If it has none, or
there is no column, then the line of the last column is empty, and the second statement is cut there
into what selects and what it selects from (`built_paragraphs`).
-/

namespace Statements

open Text (Block OneLine listed paragraphs)

namespace RowShape

/-- There is a column, and the last one has a name. -/
def LastNamed (shape : RowShape) : Prop := ∃ field ∈ shape.fields.getLast?, field.1 ≠ ""

/-- The name of the last column, and no text if there is no column. -/
def lastColumn (shape : RowShape) : String := shape.columns.getLast?.getD ""

theorem lastNamed_iff (shape : RowShape) : shape.LastNamed ↔ shape.lastColumn ≠ "" := by
  rw [LastNamed, lastColumn, columns, List.getLast?_map]
  cases shape.fields.getLast? <;> simp

/-- The lines that select all columns but the last. -/
def selectedFirst (shape : RowShape) : List String := shape.columns.dropLast.map (· ++ ",")

/-- Only the last column is selected without a comma. -/
theorem selected_eq (shape : RowShape) :
    shape.selected = shape.selectedFirst ++ [shape.lastColumn] := by
  rw [selected, Text.listed_eq, String.append_empty, selectedFirst, lastColumn]

theorem selectedFirst_ne_empty (shape : RowShape) : ∀ line ∈ shape.selectedFirst, line ≠ "" := by
  intro line mem
  obtain ⟨column, -, rfl⟩ := List.mem_map.mp mem
  simp

theorem declared_ne_empty (shape : RowShape) : ∀ line ∈ shape.declared, line ≠ "" := by
  intro line mem
  rw [declared, Text.listed_eq, List.mem_append, List.mem_map, List.mem_singleton] at mem
  rcases mem with ⟨member, -, rfl⟩ | rfl <;> simp

end RowShape

namespace BulkUpsert

/-- The lines of the insertion down to the last column but one. -/
def selecting (table : String) (columns : List String) : List String :=
  ("UPSERT INTO " ++ table) :: "SELECT" :: columns

/-- The last line of the insertion. -/
def taking (parameter : String) : String := "FROM AS_TABLE(" ++ parameter ++ ");"

theorem taking_ne_empty (parameter : String) : taking parameter ≠ "" := by
  intro empty
  have closing := (String.append_eq_empty_iff.mp empty).2
  exact absurd closing (by decide)

theorem inserting_eq (shape : RowShape) (table : String) :
    inserting shape.parameter table shape.selected =
      selecting table shape.selectedFirst ++ shape.lastColumn :: [taking shape.parameter] := by
  rw [inserting, shape.selected_eq, List.append_assoc]
  rfl

/-- The lines of both statements in blocks, but for the line of the last column. -/
structure Blocks (shape : RowShape) (table : String) : Prop where
  declares : Block (declaring shape.parameter shape.declared)
  selects : Block (selecting table shape.selectedFirst)
  last : OneLine shape.lastColumn
  takes : Block [taking shape.parameter]

theorem Tame.blocks {shape : RowShape} {table : String} (tame : Tame shape table) :
    Blocks shape table := by
  have oneLine := tame.oneLine_statements
  simp only [statements, inserting_eq, List.forall_mem_append, List.forall_mem_cons] at oneLine
  obtain ⟨declares, -, selects, last, takes, -⟩ := oneLine
  refine ⟨⟨List.cons_ne_nil _ _, declares, ?_⟩, ⟨List.cons_ne_nil _ _, selects, ?_⟩, last,
    Block.singleton takes (taking_ne_empty _)⟩
  · exact List.forall_mem_cons.mpr ⟨by simp, shape.declared_ne_empty⟩
  · exact List.forall_mem_cons.mpr
      ⟨by simp, List.forall_mem_cons.mpr ⟨by simp, shape.selectedFirst_ne_empty⟩⟩

/-- The text of both statements. -/
def whole (shape : RowShape) (table : String) : String :=
  "\n".intercalate (statements shape.parameter table shape.declared shape.selected)

namespace Blocks

variable {shape : RowShape} {table : String}

theorem paragraphs_whole (blocks : Blocks shape table) :
    paragraphs (whole shape table) =
      "\n".intercalate (declaring shape.parameter shape.declared) ::
        paragraphs ("\n".intercalate (inserting shape.parameter table shape.selected)) := by
  have below : inserting shape.parameter table shape.selected ≠ [] := List.cons_ne_nil _ _
  rw [whole, statements, Text.intercalate_blank blocks.declares.ne_nil below,
    Text.paragraphs_block_append blocks.declares]

/-- With a name in every line the insertion is a block. -/
theorem paragraphs_of_named (blocks : Blocks shape table) (named : shape.lastColumn ≠ "") :
    paragraphs (whole shape table) =
      ["\n".intercalate (declaring shape.parameter shape.declared),
        "\n".intercalate (inserting shape.parameter table shape.selected)] := by
  have last : Block [shape.lastColumn] := Block.singleton blocks.last named
  have block := (blocks.selects.append last).append blocks.takes
  rw [List.append_assoc, List.singleton_append, ← inserting_eq] at block
  rw [blocks.paragraphs_whole, Text.paragraphs_block block]

/-- Without the last name the insertion is two blocks. -/
theorem insertion_of_nameless (blocks : Blocks shape table) (nameless : shape.lastColumn = "") :
    "\n".intercalate (inserting shape.parameter table shape.selected) =
      "\n".intercalate (selecting table shape.selectedFirst) ++ "\n\n" ++
        taking shape.parameter := by
  rw [inserting_eq, nameless, Text.intercalate_blank blocks.selects.ne_nil blocks.takes.ne_nil,
    String.intercalate_singleton]

theorem paragraphs_of_nameless (blocks : Blocks shape table) (nameless : shape.lastColumn = "") :
    paragraphs (whole shape table) =
      ["\n".intercalate (declaring shape.parameter shape.declared),
        "\n".intercalate (selecting table shape.selectedFirst), taking shape.parameter] := by
  have last := Text.paragraphs_block blocks.takes
  rw [String.intercalate_singleton] at last
  rw [blocks.paragraphs_whole, blocks.insertion_of_nameless nameless,
    Text.paragraphs_block_append blocks.selects, last]

end Blocks

/-- The text begins and ends like that. -/
def Spans (front ending text : String) : Prop :=
  front.toList <+: text.toList ∧ ending.toList <:+ text.toList

theorem spans_of_eq {front middle ending text : String}
    (written : text = front ++ middle ++ ending) : Spans front ending text := by
  rw [written, Spans, String.toList_append, String.toList_append]
  refine ⟨?_, List.suffix_append _ _⟩
  rw [List.append_assoc]
  exact List.prefix_append _ _

theorem spans_declaring (shape : RowShape) :
    Spans "DECLARE " ">>;" ("\n".intercalate (declaring shape.parameter shape.declared)) := by
  have written : "\n".intercalate (declaring shape.parameter shape.declared) =
      "DECLARE " ++ (shape.parameter ++ " AS List<Struct<" ++ "\n" ++
        ",\n".intercalate (shape.fields.map RowShape.member)) ++ ">>;" := by
    rw [declaring, RowShape.declared, String.intercalate_cons_of_ne_nil Text.listed_ne_nil,
      Text.intercalate_listed]
    simp only [String.append_assoc]
  exact spans_of_eq written

/-- The insertion down to its last column, and what it takes the rows from. -/
theorem insertion_split (shape : RowShape) (table : TableName) :
    shape.insertion table =
      "UPSERT INTO " ++ table.text ++ "\nSELECT\n" ++ ",\n".intercalate shape.columns ++ "\n" ++
        taking shape.parameter := by
  delta RowShape.insertion taking
  simp only [String.append_assoc]
  rfl

theorem spans_insertion (shape : RowShape) (table : TableName) :
    Spans "UPSERT INTO " ");" (shape.insertion table) := by
  have written : shape.insertion table =
      "UPSERT INTO " ++ (table.text ++ "\nSELECT\n" ++ ",\n".intercalate shape.columns ++
        "\nFROM AS_TABLE(" ++ shape.parameter) ++ ");" := by
    delta RowShape.insertion
    simp only [String.append_assoc]
  exact spans_of_eq written

/-- A declaration and an insertion, and nothing else. -/
def TwoStatements (pieces : List String) : Prop :=
  ∃ declares inserts, pieces = [declares, inserts] ∧
    Spans "DECLARE " ">>;" declares ∧ Spans "UPSERT INTO " ");" inserts

/-- The cut stands between the columns and what they are taken from. -/
theorem selects_append_newline {shape : RowShape} {table : TableName} {selects : String}
    (cut : shape.insertion table = selects ++ "\n\n" ++ taking shape.parameter) :
    selects ++ "\n" =
      "UPSERT INTO " ++ table.text ++ "\nSELECT\n" ++ ",\n".intercalate shape.columns := by
  have newlines : selects ++ "\n\n" = selects ++ "\n" ++ "\n" := by
    rw [String.append_assoc]
    rfl
  rw [insertion_split, String.append_left_inj, newlines, String.append_left_inj] at cut
  exact cut.symm

/-- **A bulk upsert is cut into its two statements exactly if its last column has a name.** The
first piece is the declaration without its newline. The second is the insertion, or else there are
two more: the insertion down to its columns, and what they are taken from. -/
theorem built_paragraphs {shape : RowShape} {table : String} (tame : Tame shape table) :
    ∃ text declares, built shape table = .ok text ∧ declares ++ "\n" = shape.declaration ∧
      (TwoStatements (paragraphs text) ↔ shape.LastNamed) ∧
      (shape.LastNamed → paragraphs text = [declares, shape.insertion ⟨table, tame.named⟩]) ∧
      (¬ shape.LastNamed → ∃ selects takes, paragraphs text = [declares, selects, takes] ∧
        shape.insertion ⟨table, tame.named⟩ = selects ++ "\n\n" ++ takes ∧
        selects ++ "\n" =
          "UPSERT INTO " ++ table ++ "\nSELECT\n" ++ ",\n".intercalate shape.columns ∧
        takes = "FROM AS_TABLE(" ++ shape.parameter ++ ");") := by
  have blocks := tame.blocks
  have inserts := insertion_eq shape ⟨table, tame.named⟩
  refine ⟨whole shape table, _, built_eq_ok shape tame.named, (declaration_eq shape).symm, ?_⟩
  by_cases named : shape.lastColumn = ""
  · have pieces := blocks.paragraphs_of_nameless named
    have cut := inserts.trans (blocks.insertion_of_nameless named)
    have selects := selects_append_newline cut
    have nameless : ¬ shape.LastNamed := fun last => shape.lastNamed_iff.mp last named
    refine ⟨iff_of_false ?_ nameless, fun last => absurd last nameless, fun _ =>
      ⟨_, _, pieces, cut, selects, rfl⟩⟩
    rintro ⟨declares, inserts, two, -⟩
    cases pieces.symm.trans two
  · have pieces := blocks.paragraphs_of_named named
    rw [← inserts] at pieces
    have last := shape.lastNamed_iff.mpr named
    refine ⟨iff_of_true ?_ last, fun _ => pieces, fun nameless => absurd last nameless⟩
    exact ⟨_, _, pieces, spans_declaring shape, spans_insertion shape _⟩

/-- A nameless column in front of one with a name. -/
def namedBehind : RowShape := ⟨"$rows", [("", "Utf8"), ("b", "Decimal(22,9)")]⟩

theorem built_paragraphs_nameless :
    Tame namedBehind "t" ∧ Tame shortName "t" ∧
      (∃ text, built namedBehind "t" = .ok text ∧ TwoStatements (paragraphs text)) ∧
      ∃ text, built shortName "t" = .ok text ∧ ¬ TwoStatements (paragraphs text) := by
  have left : Tame namedBehind "t" := ⟨by decide, by decide, by decide, by decide⟩
  have right : Tame shortName "t" := ⟨by decide, by decide, by decide, by decide⟩
  obtain ⟨text, -, written, -, cut, -⟩ := built_paragraphs left
  obtain ⟨other, -, written', -, cut', -⟩ := built_paragraphs right
  have last : namedBehind.LastNamed := ⟨("b", "Decimal(22,9)"), rfl, by decide⟩
  have nameless : ¬ shortName.LastNamed := by
    rw [RowShape.lastNamed_iff]
    decide
  exact ⟨left, right, ⟨text, written, cut.mpr last⟩, other, written', mt cut'.mp nameless⟩

end BulkUpsert

end Statements
