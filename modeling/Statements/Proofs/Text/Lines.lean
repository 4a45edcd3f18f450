import Mathlib.Logic.Basic

/-!
# Texts in lines

A newline ends a line and nothing else does, so texts without newlines that are written below each
other can be told apart again (`lines_intercalate`).

A list that gives every text a line of its own, with a comma behind all but the last and an ending
behind the last, has one line for each text, and a line for the ending alone if there is no text
(`length_listed`). The lines determine as many texts, whatever commas those have
(`listed_unique`). How many there are they do not quite say: no texts and one empty text are
listed alike (`length_eq_of_listed_eq`).
-/

namespace Statements.Text

/-- The lines of a text, without the newlines between them. -/
def lines (text : String) : List String := (text.toList.splitOn '\n').map String.ofList

/-- Without newlines. -/
def OneLine (text : String) : Prop := '\n' ∉ text.toList

instance (text : String) : Decidable (OneLine text) := inferInstanceAs (Decidable (_ ∉ _))

theorem OneLine.append {text next : String} (first : OneLine text) (second : OneLine next) :
    OneLine (text ++ next) := by
  rw [OneLine, String.toList_append, List.mem_append]
  rintro (here | there)
  · exact first here
  · exact second there

/-- Lines written below each other are the lines of the text. -/
theorem lines_intercalate {texts : List String} (some : texts ≠ [])
    (oneLine : ∀ text ∈ texts, OneLine text) : lines ("\n".intercalate texts) = texts := by
  have noNewline : ∀ chars ∈ texts.map String.toList, '\n' ∉ chars := by
    intro chars mem
    obtain ⟨text, among, rfl⟩ := List.mem_map.mp mem
    exact oneLine text among
  have split := List.splitOn_intercalate '\n' noNewline (mt List.map_eq_nil_iff.mp some)
  have newline : "\n".toList = ['\n'] := rfl
  rw [lines, String.toList_intercalate, newline, split, List.map_map]
  simp

theorem lines_unique {texts others : List String} (someLeft : texts ≠ []) (someRight : others ≠ [])
    (left : ∀ text ∈ texts, OneLine text) (right : ∀ text ∈ others, OneLine text)
    (same : "\n".intercalate texts = "\n".intercalate others) : texts = others := by
  rw [← lines_intercalate someLeft left, same, lines_intercalate someRight right]

/-! ## One text on each line -/

/-- The texts as lines, with commas behind all but the last, and the ending behind the last. -/
def listed (ending : String) : List String → List String
  | [] => [ending]
  | [text] => [text ++ ending]
  | text :: next :: texts => (text ++ ",") :: listed ending (next :: texts)

variable {ending : String} {texts others : List String}

theorem listed_ne_nil : listed ending texts ≠ [] := by
  rcases texts with _ | ⟨text, _ | ⟨next, texts⟩⟩ <;> exact List.cons_ne_nil _ _

/-- The ending stands behind the last text, or alone if there is none. -/
theorem listed_eq (ending : String) (texts : List String) :
    listed ending texts =
      texts.dropLast.map (· ++ ",") ++ [texts.getLast?.getD "" ++ ending] := by
  induction texts with
  | nil => rw [listed, List.getLast?_nil, Option.getD_none, String.empty_append]; rfl
  | cons text texts ih =>
    cases texts with
    | nil => rfl
    | cons next texts =>
      rw [listed, ih, List.dropLast_cons_cons, List.getLast?_cons_cons]
      rfl

theorem length_listed : (listed ending texts).length = max 1 texts.length := by
  induction texts with
  | nil => rfl
  | cons text texts ih =>
    cases texts with
    | nil => rfl
    | cons next texts =>
      rw [listed, List.length_cons, ih]
      simp only [List.length_cons]
      omega

/-- The list as it stands in a statement. -/
theorem intercalate_listed :
    "\n".intercalate (listed ending texts) = ",\n".intercalate texts ++ ending := by
  induction texts with
  | nil => rw [listed, String.intercalate_singleton, String.intercalate_nil, String.empty_append]
  | cons text texts ih =>
    cases texts with
    | nil => rw [listed, String.intercalate_singleton, String.intercalate_singleton]
    | cons next texts =>
      rw [listed, String.intercalate_cons_of_ne_nil listed_ne_nil, ih,
        String.intercalate_cons_cons]
      simp only [String.append_assoc]
      rfl

theorem oneLine_listed (endsLine : OneLine ending) (oneLine : ∀ text ∈ texts, OneLine text) :
    ∀ line ∈ listed ending texts, OneLine line := by
  have comma : OneLine "," := by decide
  induction texts with
  | nil => exact List.forall_mem_singleton.mpr endsLine
  | cons text texts ih =>
    obtain ⟨first, later⟩ := List.forall_mem_cons.mp oneLine
    cases texts with
    | nil => exact List.forall_mem_singleton.mpr (first.append endsLine)
    | cons next texts => exact List.forall_mem_cons.mpr ⟨first.append comma, ih later⟩

/-- Where a text is listed, and what stands behind it. -/
theorem getElem?_listed {k : Nat} {text : String} (stands : texts[k]? = some text) :
    (listed ending texts)[k]? =
      some (text ++ if k + 1 = texts.length then ending else ",") := by
  induction texts generalizing k with
  | nil => cases stands
  | cons first texts ih =>
    cases texts with
    | nil =>
      obtain _ | k := k
      · obtain rfl := Option.some.inj stands
        rfl
      · cases stands
    | cons next texts =>
      obtain _ | k := k
      · obtain rfl := Option.some.inj stands
        rfl
      · rw [listed, List.getElem?_cons_succ, ih stands]
        simp only [List.length_cons, Nat.add_right_cancel_iff]

/-- The lines determine as many texts. -/
theorem listed_unique (length : texts.length = others.length)
    (same : listed ending texts = listed ending others) : texts = others := by
  induction texts generalizing others with
  | nil => exact (List.eq_nil_of_length_eq_zero length.symm).symm
  | cons text texts ih =>
    obtain _ | ⟨other, others⟩ := others
    · cases length
    have length := Nat.succ.inj length
    cases texts with
    | nil =>
      obtain rfl := List.eq_nil_of_length_eq_zero length.symm
      rw [(String.append_left_inj ending).mp (List.cons.inj same).1]
    | cons next texts =>
      obtain _ | ⟨next', others⟩ := others
      · cases length
      obtain ⟨first, later⟩ := List.cons.inj same
      rw [(String.append_left_inj ",").mp first, ih length later]

theorem listed_eq_ending (noneEmpty : "" ∉ texts) (alone : listed ending texts = [ending]) :
    texts = [] := by
  obtain _ | ⟨text, _ | ⟨next, texts⟩⟩ := texts
  · rfl
  · have empty : text ++ ending = "" ++ ending := by
      rw [String.empty_append]
      exact (List.cons.inj alone).1
    rw [(String.append_left_inj ending).mp empty] at noneEmpty
    exact absurd List.mem_cons_self noneEmpty
  · exact absurd (List.cons.inj alone).2 listed_ne_nil

/-- The lines determine the number of texts, if none of the texts is empty. -/
theorem length_eq_of_listed_eq (left : "" ∉ texts) (right : "" ∉ others)
    (same : listed ending texts = listed ending others) : texts.length = others.length := by
  rcases eq_or_ne texts [] with rfl | someLeft
  · rw [listed_eq_ending right same.symm]
  rcases eq_or_ne others [] with rfl | someRight
  · rw [listed_eq_ending left same]
  have lengths := congrArg List.length same
  rw [length_listed, length_listed] at lengths
  have := List.length_pos_iff.mpr someLeft
  have := List.length_pos_iff.mpr someRight
  omega

end Statements.Text
