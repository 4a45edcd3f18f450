import Statements.Proofs.Scalar.Literal
import Statements.Proofs.Text.Listing

/-!
# Lists of literals

A literal is written either in quotes or with plain characters only, and the first character tells
which. A quotation without quotes of its own ends at its second quote, and a plain text ends at the
next delimiter; so either way the end of a literal can be told from the delimiter behind it
(`Scalar.endsAtDelimiter_literal`). Commas and parentheses inside quotes do no harm.

No literal is empty and none begins with a parenthesis, so a list of literals in parentheses can be
read off even if it may be empty (`Scalar.literals_append_unique`).
-/

namespace Statements

open Text (Plain)

namespace Scalar

/-- A text without quotes, written as a literal. -/
def IsLiteral (text : String) : Prop := ∃ scalar : Scalar, scalar.QuoteFree ∧ text = scalar.literal

/-- A literal is a quotation or plain. -/
theorem IsLiteral.cases {text : String} (literal : IsLiteral text) :
    (∃ inner : List Char, '\'' ∉ inner ∧ text.toList = '\'' :: (inner ++ ['\''])) ∨ Plain text := by
  obtain ⟨scalar, free, rfl⟩ := literal
  cases isText : scalar.isText with
  | false =>
    right
    rw [literal_of_not_isText isText]
    exact plain_bare isText
  | true =>
    left
    cases scalar with
    | text s =>
      refine ⟨s.toList, free, ?_⟩
      simp only [Scalar.literal, String.toList_append]
      rfl
    | null | bool | signed | unsigned | float => cases isText

/-- **Where a literal ends.** -/
theorem endsAtDelimiter_literal : Text.EndsAtDelimiter IsLiteral := by
  have quote : Text.isDelimiter '\'' = true := rfl
  intro p q r s left right breaksLeft breaksRight same
  rcases left.cases with ⟨inner, freeLeft, quoted⟩ | plainLeft
  · rcases right.cases with ⟨inner', freeRight, quoted'⟩ | plainRight
    · have chars := same
      rw [quoted, quoted', List.cons_append, List.cons_append, List.append_assoc,
        List.append_assoc] at chars
      obtain ⟨inners, tails⟩ :=
        Text.append_cons_unique freeLeft freeRight (List.cons.inj chars).2
      refine ⟨String.toList_injective ?_, tails⟩
      rw [quoted, quoted', inners]
    · rw [quoted] at same
      exact absurd same.symm (plainRight.append_ne_cons quote _ _)
  · rcases right.cases with ⟨inner', freeRight, quoted'⟩ | plainRight
    · rw [quoted'] at same
      exact absurd same (plainLeft.append_ne_cons quote _ _)
    · exact plainLeft.append_unique plainRight breaksLeft breaksRight same

/-- No literal begins with a delimiter other than its quote. -/
theorem IsLiteral.append_ne_cons {text : String} (literal : IsLiteral text) {d : Char}
    (delimiter : Text.isDelimiter d = true) (noQuote : '\'' ≠ d) (rest behind : List Char) :
    text.toList ++ rest ≠ d :: behind := by
  rcases literal.cases with ⟨inner, -, quoted⟩ | plain
  · rw [quoted]
    intro same
    exact noQuote (List.cons.inj same).1
  · exact plain.append_ne_cons delimiter rest behind

/-- The literals of a list of scalars, none of which has quotes. -/
theorem isLiteral_of_mem {scalars : List Scalar} (free : ∀ scalar ∈ scalars, scalar.QuoteFree) :
    ∀ text ∈ scalars.map literal, IsLiteral text := by
  intro text mem
  obtain ⟨scalar, among, rfl⟩ := List.mem_map.mp mem
  exact ⟨scalar, free scalar among, rfl⟩

/-- A list that is not empty is not closed at once. -/
theorem literals_append_ne_close {texts : List String} (some : texts ≠ [])
    (literals : ∀ text ∈ texts, IsLiteral text) (rest behind : List Char) :
    Text.listing texts ++ rest ≠ ')' :: behind := by
  have noQuote : '\'' ≠ ')' := by decide
  cases texts with
  | nil => exact absurd rfl some
  | cons text texts =>
    have first := literals text List.mem_cons_self
    cases texts with
    | nil =>
      rw [Text.listing_singleton]
      exact first.append_ne_cons rfl noQuote rest behind
    | cons next texts =>
      rw [Text.listing_cons_cons, List.append_assoc]
      exact first.append_ne_cons rfl noQuote _ behind

/-- **A list of literals in parentheses can be read off**, and so can the empty list. -/
theorem literals_append_unique {xs ys : List String} {r s : List Char}
    (left : ∀ x ∈ xs, IsLiteral x) (right : ∀ y ∈ ys, IsLiteral y)
    (same : Text.listing xs ++ ')' :: r = Text.listing ys ++ ')' :: s) : xs = ys ∧ r = s := by
  have closes : ∀ rest, Text.Closes (')' :: rest) := fun _ => ⟨rfl, by decide⟩
  rcases eq_or_ne xs [] with rfl | someLeft
  · rcases eq_or_ne ys [] with rfl | someRight
    · exact ⟨rfl, (List.cons.inj same).2⟩
    · exact absurd same.symm (literals_append_ne_close someRight right _ _)
  · rcases eq_or_ne ys [] with rfl | someRight
    · exact absurd same (literals_append_ne_close someLeft left _ _)
    · obtain ⟨texts, tails⟩ := Text.listing_append_unique endsAtDelimiter_literal someLeft
        someRight left right (closes r) (closes s) same
      exact ⟨texts, (List.cons.inj tails).2⟩

end Scalar

end Statements
