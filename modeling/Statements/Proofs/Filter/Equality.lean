import Statements.Proofs.Filter.Comparison
import Statements.Proofs.Filter.Unambiguous
import Statements.Proofs.Scalar.Equality

/-!
# Equal predicates and their clauses

Equal predicates have the same form, column and operator, and equal values. What surrounds the
values in the text is then the same, so the texts agree unless the values are written differently,
and among equal values only opposite zeros are. What counts is what is written: a null check is
given a value and shows none.

A clause is written from its front, so the first condition whose text differs tells two clauses
apart, however the conditions are grouped. Clauses over equal predicates with the same connectives
are therefore the same exactly if no two predicates in the same place write opposite zeros
(`GroupCalls.text?_filter_of_alike`).
-/

namespace Statements

open Text (listing Apart)

namespace Predicate

/-- The scalars that the predicate was given. -/
def scalars : Predicate → List Scalar
  | .raw _ => []
  | .compare _ _ value => [value]
  | .list _ _ values => values

/-- The scalars that the text shows. -/
def written : Predicate → List Scalar
  | .raw _ => []
  | .compare _ operator value => if operator.shape = .nothing then [] else [value]
  | .list _ _ values => values

/-- The predicate without its scalars. -/
def frame : Predicate → Predicate
  | .raw fragment => .raw fragment
  | .compare column operator _ => .compare column operator .null
  | .list column operator _ => .list column operator []

variable {p q : Predicate}

/-- Equal predicates differ in their scalars only, and those are equal. -/
theorem beq_iff : (p == q) = true ↔ p.frame = q.frame ∧ (p.scalars == q.scalars) = true := by
  cases p <;> cases q
  case raw.raw f g =>
    show decide (f = g) = true ↔ _
    simp [frame, scalars]
  case compare.compare c o v d r w =>
    show (decide (c = d) && decide (o = r) && (v == w)) = true ↔ _
    simp [frame, scalars, and_assoc]
  case list.list c o vs d r ws =>
    show (decide (c = d) && decide (o = r) && (vs == ws)) = true ↔ _
    simp [frame, scalars, and_assoc]
  -- predicates of two forms
  all_goals exact iff_of_false Bool.false_ne_true (by simp [frame])

theorem partialEquality : PartialEquality scalars :=
  PartialEquality.scalars.framed frame scalars beq_iff

/-- What is written is what was given, or nothing: the form and the operator settle which. -/
theorem written_cases (same : p.frame = q.frame) :
    p.written = p.scalars ∧ q.written = q.scalars ∨ p.written = [] ∧ q.written = [] := by
  cases p <;> cases q <;> cases same
  case raw.refl => exact .inl ⟨rfl, rfl⟩
  case compare.refl column operator value value' =>
    by_cases nothing : operator.shape = .nothing
    · exact .inr ⟨if_pos nothing, if_pos nothing⟩
    · exact .inl ⟨if_neg nothing, if_neg nothing⟩
  case list.refl => exact .inl ⟨rfl, rfl⟩

theorem written_beq (alike : (p == q) = true) : (p.written == q.written) = true := by
  obtain ⟨frames, scalars⟩ := beq_iff.mp alike
  rcases written_cases frames with ⟨left, right⟩ | ⟨left, right⟩
  · rwa [left, right]
  · rw [left, right]
    rfl

theorem opposed_scalars (alike : (p == q) = true) (opposed : Scalar.Opposed p.written q.written) :
    Scalar.Opposed p.scalars q.scalars := by
  rcases written_cases (beq_iff.mp alike).1 with ⟨left, right⟩ | ⟨left, right⟩
  · rwa [left, right] at opposed
  · rw [left, right] at opposed
    exact absurd opposed Scalar.not_opposed_nil

/-- The literals that are written stand between characters that do not depend on them. -/
theorem exists_surroundings (p : Predicate) : ∃ before behind, ∀ q : Predicate,
    q.frame = p.frame →
      q.text.toList = before ++ (listing (q.written.map Scalar.literal) ++ behind) := by
  have blank : " ".toList = [' '] := rfl
  cases p with
  | raw fragment =>
    refine ⟨fragment.toList, [], fun q same => ?_⟩
    cases q <;> cases same
    simp [text, written, listing]
  | compare column operator value =>
    by_cases unary : operator.isUnary = true
    · refine ⟨column.toList ++ ' ' :: operator.text.toList, [], fun q same => ?_⟩
      cases q <;> cases same
      simp [text, written, operand, operator.shape_eq, unary, listing]
    by_cases several : operator.takesList = true
    · refine ⟨column.toList ++ ' ' :: (operator.text.toList ++ [' ', '(']), [')'], fun q same => ?_⟩
      cases q <;> cases same
      simp [text, written, operand, operator.shape_eq, unary, several, toList_literalList]
    · refine ⟨column.toList ++ ' ' :: (operator.text.toList ++ [' ']), [], fun q same => ?_⟩
      cases q <;> cases same
      simp [text, written, operand, operator.shape_eq, unary, several, Text.listing_singleton]
  | list column operator values =>
    refine ⟨column.toList ++ ' ' :: (operator.text.toList ++ [' ', '(']), [')'], fun q same => ?_⟩
    cases q <;> cases same
    simp [text, written, toList_literalList]

theorem apart_text (alike : (p == q) = true) (opposed : Scalar.Opposed p.written q.written) :
    Apart p.text.toList q.text.toList := by
  obtain ⟨before, behind, surrounded⟩ := exists_surroundings q
  rw [surrounded p (beq_iff.mp alike).1, surrounded q rfl]
  exact ((Scalar.apart_listing (written_beq alike) opposed).append_right _ _).append_left _

/-- **Equal predicates are written alike** but for opposite zeros that are written. -/
theorem text_eq_iff (alike : (p == q) = true) :
    p.text = q.text ↔ ¬ Scalar.Opposed p.written q.written := by
  constructor
  · intro same opposed
    exact (apart_text alike opposed).ne (congrArg String.toList same)
  · intro none
    obtain ⟨before, behind, surrounded⟩ := exists_surroundings q
    apply String.toList_injective
    rw [surrounded p (beq_iff.mp alike).1, surrounded q rfl,
      Scalar.eq_of_not_opposed (written_beq alike) none]

end Predicate

/-! ## Clauses -/

namespace Written

/-- The condition as a clause shows it. -/
def ofTied (condition : Connective × Predicate) : Written := (condition.1, condition.2.text)

/-- The same connective, and texts that are the same or differ in a character. -/
def Compares (x y : Written) : Prop := x.1 = y.1 ∧ (x.2 = y.2 ∨ Apart x.2.toList y.2.toList)

variable {x y : Written} {xs ys : List Written} {r s : List Char}

theorem Compares.append_unique (compares : Compares x y)
    (same : x.2.toList ++ r = y.2.toList ++ s) : x = y ∧ r = s := by
  obtain ⟨connectives, texts | apart⟩ := compares
  · rw [texts] at same
    exact ⟨Prod.ext connectives texts, List.append_cancel_left same⟩
  · exact absurd same (apart.append_right r s).ne

theorem eq_of_flatMap_chars_eq (compares : List.Forall₂ Compares xs ys)
    (same : xs.flatMap chars = ys.flatMap chars) : xs = ys := by
  induction compares with
  | nil => rfl
  | @cons x y xs ys head _ ih =>
    -- texts that differ in a character cannot both begin the clause, so the first two are one
    simp only [List.flatMap_cons, chars, List.append_assoc, head.1] at same
    obtain ⟨rfl, rest⟩ := head.append_unique (List.append_cancel_left same)
    rw [ih (List.append_cancel_left rest)]

/-- The first text that differs tells two clauses apart. -/
theorem eq_of_clause?_eq (compares : List.Forall₂ Compares xs ys)
    (same : clause? xs = clause? ys) : xs = ys := by
  cases compares with
  | nil => rfl
  | cons head tail =>
    have chars := List.append_cancel_left (Option.some.inj same)
    obtain ⟨rfl, rest⟩ := head.append_unique chars
    rw [eq_of_flatMap_chars_eq tail (List.cons.inj rest).2]

end Written

namespace GroupCalls

/-- The predicates of all groups in order, each with the connective of its group. -/
def tied (calls : GroupCalls) : List (Connective × Predicate) :=
  calls.flatMap fun call => call.2.map fun predicate => (call.1, predicate)

theorem flattened_eq (calls : GroupCalls) : calls.flattened = calls.tied.map Written.ofTied := by
  simp only [flattened, tied, List.map_flatMap, List.map_map, Function.comp_def, Written.ofTied]

/-- The same connective and equal predicates. -/
def Alike (c d : Connective × Predicate) : Prop := c.1 = d.1 ∧ (c.2 == d.2) = true

variable {c d : Connective × Predicate}

theorem Alike.ofTied_eq_iff (alike : Alike c d) :
    Written.ofTied c = Written.ofTied d ↔ ¬ Scalar.Opposed c.2.written d.2.written := by
  rw [← Predicate.text_eq_iff alike.2, Written.ofTied, Written.ofTied, Prod.mk.injEq,
    and_iff_right alike.1]

theorem Alike.compares (alike : Alike c d) :
    Written.Compares (Written.ofTied c) (Written.ofTied d) := by
  refine ⟨alike.1, ?_⟩
  by_cases opposed : Scalar.Opposed c.2.written d.2.written
  · exact .inr (Predicate.apart_text alike.2 opposed)
  · exact .inl ((Predicate.text_eq_iff alike.2).mpr opposed)

/-- No two predicates in the same place hold opposite zeros, among the scalars that count. -/
def Unopposed (held : Predicate → List Scalar) (calls others : GroupCalls) : Prop :=
  List.Forall₂ (fun c d => ¬ Scalar.Opposed (held c.2) (held d.2)) calls.tied others.tied

variable {calls others : GroupCalls}

/-- What is not held is not written. -/
theorem Unopposed.of_scalars (alike : List.Forall₂ Alike calls.tied others.tied)
    (none : Unopposed Predicate.scalars calls others) :
    Unopposed Predicate.written calls others :=
  List.Forall₂.mp (fun _ _ alike => mt (Predicate.opposed_scalars alike.2)) alike none

/-- **Equal predicates make the same clause** but for opposite zeros that are written, in whatever
groups they come. -/
theorem text?_filter_of_alike (alike : List.Forall₂ Alike calls.tied others.tied) :
    calls.filter.text? = others.filter.text? ↔ Unopposed Predicate.written calls others := by
  have compares : List.Forall₂ Written.Compares calls.flattened others.flattened := by
    rw [flattened_eq, flattened_eq, List.forall₂_map_left_iff, List.forall₂_map_right_iff]
    exact alike.imp fun _ _ => Alike.compares
  have clauses : calls.filter.text? = others.filter.text? ↔
      calls.flattened = others.flattened := by
    rw [Filter.text?_eq_iff, written_filter, written_filter]
    exact ⟨Written.eq_of_clause?_eq compares, congrArg Written.clause?⟩
  rw [clauses, flattened_eq, flattened_eq, ← List.forall₂_eq_eq_eq, List.forall₂_map_left_iff,
    List.forall₂_map_right_iff]
  constructor
  · exact List.Forall₂.mp (fun _ _ alike => alike.ofTied_eq_iff.mp) alike
  · exact List.Forall₂.mp (fun _ _ alike => alike.ofTied_eq_iff.mpr) alike

end GroupCalls

end Statements
