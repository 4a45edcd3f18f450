import Statements.Filter.Predicate
import Statements.Proofs.Binary64.Figures
import Statements.Proofs.Text.Plain

/-!
# What a literal can contain

A literal goes into a statement between other texts, so what matters of it is what it cannot
contain. Outside quotes a scalar is written with numerals or as one of a few words, and none of
those has a delimiter: such a text is plain whatever the value (`Scalar.plain_bare`), and so it is
balanced. A text is written in quotes as it is, so its literal is balanced when the text has no
quote of its own, and parentheses and connectives inside the quotes do no harm
(`Scalar.QuoteFree.balanced_literal`).

Predicates inherit both: `Predicate.WellQuoted` asks balance of what is written as it is, and
nothing else of what is written as a literal.
-/

namespace Statements

open Text (Balanced Plain)

theorem Binary64.not_isDelimiter_of_isNumeral {c : Char} (numeral : isNumeral c = true) :
    Text.isDelimiter c = false := by
  refine Bool.eq_false_iff.mpr fun delimiter => ?_
  have among : c = ' ' ∨ c = ',' ∨ c = ';' ∨ c = '(' ∨ c = ')' ∨ c = '\'' := by
    simpa [Text.isDelimiter] using delimiter
  rcases among with rfl | rfl | rfl | rfl | rfl | rfl <;> cases numeral

namespace Scalar

/-- The scalar is a text. -/
def isText : Scalar → Bool
  | .text _ => true
  | _ => false

theorem plain_of_isNumeral {chars : List Char} (nonempty : chars ≠ [])
    (numerals : ∀ c ∈ chars, Binary64.isNumeral c = true) : Plain (String.ofList chars) := by
  refine ⟨?_, ?_⟩
  · intro empty
    exact nonempty (String.ofList_eq_empty_iff.mp empty)
  · rw [String.toList_ofList, List.all_eq_true]
    intro c mem
    rw [Binary64.not_isDelimiter_of_isNumeral (numerals c mem)]
    rfl

theorem plain_floatText (x : Binary64) : Plain (floatText x) := by
  unfold floatText
  split
  · decide
  split
  · exact plain_of_isNumeral (Binary64.Layout.chars_ne_nil _ x) fun _ mem =>
      Binary64.Layout.isNumeral_of_mem_chars mem
  split
  · decide
  · decide

/-- The plain text of anything but a text is plain. -/
theorem plain_bare {scalar : Scalar} (noText : scalar.isText = false) : Plain scalar.bare := by
  cases scalar with
  | null => decide
  | bool b => cases b <;> decide
  | signed n =>
    refine plain_of_isNumeral ?_ (Binary64.isNumeral_integerChars n.toInt)
    unfold Json.integerChars
    split
    · exact List.cons_ne_nil _ _
    · exact Nat.toDigits_ne_nil
  | unsigned n =>
    exact plain_of_isNumeral Nat.toDigits_ne_nil fun _ mem => Binary64.isNumeral_toDigits mem
  | float x => exact plain_floatText x
  | text s => exact nomatch noText

theorem literal_of_not_isText {scalar : Scalar} (noText : scalar.isText = false) :
    scalar.literal = scalar.bare := by
  cases scalar with
  | text s => exact nomatch noText
  | null | bool | signed | unsigned | float => rfl

/-- The scalar is no text with a quote in it. -/
def QuoteFree : Scalar → Prop
  | .text s => '\'' ∉ s.toList
  | _ => True

instance : (scalar : Scalar) → Decidable scalar.QuoteFree
  | .text s => inferInstanceAs (Decidable ('\'' ∉ s.toList))
  | .null | .bool _ | .signed _ | .unsigned _ | .float _ => inferInstanceAs (Decidable True)

/-- The literal of a scalar without quotes inside is balanced. -/
theorem QuoteFree.balanced_literal {scalar : Scalar} (free : scalar.QuoteFree) :
    Balanced scalar.literal := by
  cases isText : scalar.isText with
  | false =>
    rw [literal_of_not_isText isText]
    exact (plain_bare isText).balanced
  | true =>
    cases scalar with
    | text s => exact Balanced.quotation free
    | null | bool | signed | unsigned | float => cases isText

end Scalar

namespace Predicate

/-- What the predicate writes as it is, is balanced, and no text among its values has a quote. -/
def WellQuoted : Predicate → Prop
  | .raw fragment => Balanced fragment
  | .compare column operator value => Balanced column ∧ Balanced operator.text ∧ value.QuoteFree
  | .list column operator values =>
    Balanced column ∧ Balanced operator.text ∧ ∀ value ∈ values, value.QuoteFree

instance : (predicate : Predicate) → Decidable predicate.WellQuoted
  | .raw fragment => inferInstanceAs (Decidable (Balanced fragment))
  | .compare _ _ _ => inferInstanceAs (Decidable (_ ∧ _ ∧ _))
  | .list _ _ _ => inferInstanceAs (Decidable (_ ∧ _ ∧ ∀ _ ∈ _, _))

/-- A list of literals in parentheses is balanced. -/
theorem balanced_literalList {values : List Scalar} (free : ∀ value ∈ values, value.QuoteFree) :
    Balanced (literalList values) := by
  have comma : Balanced ", " := rfl
  apply Balanced.parenthesized
  apply Balanced.intercalate comma
  intro text mem
  obtain ⟨value, among, rfl⟩ := List.mem_map.mp mem
  exact (free value among).balanced_literal

theorem balanced_operand (operator : Operator) {value : Scalar} (free : value.QuoteFree) :
    Balanced (operand operator value) := by
  have blank : Balanced " " := rfl
  unfold operand
  split
  · rfl
  split
  · apply blank.append
    apply balanced_literalList
    intro other mem
    obtain rfl := List.mem_singleton.mp mem
    exact free
  · exact blank.append free.balanced_literal

/-- **A well-quoted predicate renders to a balanced text**, whatever its texts contain inside
quotes. -/
theorem WellQuoted.balanced_text {predicate : Predicate} (quoted : predicate.WellQuoted) :
    Balanced predicate.text := by
  have blank : Balanced " " := rfl
  cases predicate with
  | raw fragment => exact quoted
  | compare column operator value =>
    obtain ⟨column, operator, free⟩ := quoted
    exact ((column.append blank).append operator).append (balanced_operand _ free)
  | list column operator values =>
    obtain ⟨column, operator, free⟩ := quoted
    exact (((column.append blank).append operator).append blank).append
      (balanced_literalList free)

end Predicate

end Statements
