import Statements.Proofs.Text.Lines

/-!
# Texts in paragraphs

Two newlines in a row end a paragraph. They are searched for from the front, and behind them the
search goes on with what follows, so of three newlines the last belongs to the next paragraph.

Some lines without an empty one among them are a **block**. A block has no two newlines in a row and
neither begins nor ends in one, so it is not cut, and two newlines behind it end it
(`paragraphs_block_append`).
-/

namespace Statements.Text

/-- The characters between two newlines in a row. -/
def cut : List Char → List (List Char)
  | [] => [[]]
  | [c] => [[c]]
  | c :: d :: rest =>
    if c = '\n' ∧ d = '\n' then [] :: cut rest else (cut (d :: rest)).modifyHead (c :: ·)

/-- The pieces of a text that is cut at every two newlines in a row. -/
def paragraphs (text : String) : List String := (cut text.toList).map String.ofList

theorem cut_blank (rest : List Char) : cut ('\n' :: '\n' :: rest) = [] :: cut rest := rfl

/-- Nothing else is cut. -/
theorem cut_cons {c : Char} {rest : List Char} (notBlank : c = '\n' → rest.head? ≠ some '\n') :
    cut (c :: rest) = (cut rest).modifyHead (c :: ·) := by
  cases rest with
  | nil => rfl
  | cons d rest =>
    rw [cut, if_neg]
    rintro ⟨first, second⟩
    exact notBlank first (congrArg some second)

theorem cut_append_of_not_mem {front : List Char} (noNewline : '\n' ∉ front) (rest : List Char) :
    cut (front ++ rest) = (cut rest).modifyHead (front ++ ·) := by
  induction front with
  | nil => exact (congrFun List.modifyHead_id _).symm
  | cons c front ih =>
    rw [List.mem_cons, not_or] at noNewline
    obtain ⟨letter, noNewline⟩ := noNewline
    rw [List.cons_append, cut_cons fun newline => absurd newline.symm letter, ih noNewline,
      List.modifyHead_modifyHead]
    rfl

/-- Lines without an empty one among them. -/
structure Block (lines : List String) : Prop where
  ne_nil : lines ≠ []
  oneLine : ∀ line ∈ lines, OneLine line
  nonempty : ∀ line ∈ lines, line ≠ ""

theorem Block.append {above below : List String} (first : Block above) (second : Block below) :
    Block (above ++ below) where
  ne_nil := List.append_ne_nil_of_left_ne_nil first.ne_nil below
  oneLine := List.forall_mem_append.mpr ⟨first.oneLine, second.oneLine⟩
  nonempty := List.forall_mem_append.mpr ⟨first.nonempty, second.nonempty⟩

theorem Block.singleton {line : String} (oneLine : OneLine line) (nonempty : line ≠ "") :
    Block [line] where
  ne_nil := List.cons_ne_nil _ _
  oneLine := List.forall_mem_singleton.mpr oneLine
  nonempty := List.forall_mem_singleton.mpr nonempty

/-- An empty line is two newlines in a row. -/
theorem intercalate_blank {above below : List String} (someAbove : above ≠ [])
    (someBelow : below ≠ []) :
    "\n".intercalate (above ++ "" :: below) =
      "\n".intercalate above ++ "\n\n" ++ "\n".intercalate below := by
  rw [String.intercalate_append_of_ne_nil someAbove (List.cons_ne_nil _ _),
    String.intercalate_cons_of_ne_nil someBelow, String.empty_append]
  simp only [String.append_assoc]
  rfl

variable {lines : List String}

/-- A block begins with a letter. -/
theorem Block.head?_ne (block : Block lines) (rest : List Char) :
    (("\n".intercalate lines).toList ++ rest).head? ≠ some '\n' := by
  obtain ⟨ne_nil, oneLine, nonempty⟩ := block
  obtain ⟨line, others, rfl⟩ := List.exists_cons_of_ne_nil ne_nil
  have filled := nonempty line List.mem_cons_self
  obtain ⟨c, front, letters⟩ := List.exists_cons_of_ne_nil (mt String.toList_eq_nil_iff.mp filled)
  have letter : c ≠ '\n' := by
    rintro rfl
    exact oneLine line List.mem_cons_self (letters ▸ List.mem_cons_self)
  rw [String.toList_intercalate, List.map_cons, letters]
  cases others <;> simpa [List.intercalate] using letter

/-- **A block is not cut**, whatever stands behind it. -/
theorem cut_block_append (block : Block lines) (rest : List Char) :
    cut (("\n".intercalate lines).toList ++ rest) =
      (cut rest).modifyHead (("\n".intercalate lines).toList ++ ·) := by
  have newline : "\n".toList = ['\n'] := rfl
  induction lines with
  | nil => exact absurd rfl block.ne_nil
  | cons line lines ih =>
    obtain ⟨-, oneLine, nonempty⟩ := block
    obtain ⟨first, others⟩ := List.forall_mem_cons.mp oneLine
    obtain ⟨-, filled⟩ := List.forall_mem_cons.mp nonempty
    rcases eq_or_ne lines [] with rfl | more
    · rw [String.intercalate_singleton]
      exact cut_append_of_not_mem first rest
    -- the newline between two lines has a letter behind it, so nothing is cut there
    · have later : Block lines := ⟨more, others, filled⟩
      simp only [String.intercalate_cons_of_ne_nil more, String.toList_append, newline,
        List.append_assoc, List.cons_append, List.nil_append]
      rw [cut_append_of_not_mem first, cut_cons fun _ => later.head?_ne rest, ih later,
        List.modifyHead_modifyHead, List.modifyHead_modifyHead]
      rfl

theorem paragraphs_block (block : Block lines) :
    paragraphs ("\n".intercalate lines) = ["\n".intercalate lines] := by
  have whole := cut_block_append block []
  rw [List.append_nil] at whole
  rw [paragraphs, whole, cut, List.modifyHead_cons, List.append_nil, List.map_singleton,
    String.ofList_toList]

/-- **Two newlines end a block.** -/
theorem paragraphs_block_append (block : Block lines) (text : String) :
    paragraphs ("\n".intercalate lines ++ "\n\n" ++ text) =
      "\n".intercalate lines :: paragraphs text := by
  have blank : "\n\n".toList = ['\n', '\n'] := rfl
  rw [paragraphs, String.toList_append, String.toList_append, blank, List.append_assoc,
    cut_block_append block, List.cons_append, List.singleton_append, cut_blank,
    List.modifyHead_cons, List.append_nil, List.map_cons, String.ofList_toList, paragraphs]

example : paragraphs "a\n\n\nb\n" = ["a", "\nb\n"] := by decide

end Statements.Text
