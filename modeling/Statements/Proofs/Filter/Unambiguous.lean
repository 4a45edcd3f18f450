import Statements.Filter.Clause
import Statements.Proofs.Scalar.Literal

/-!
# What a clause says of its conditions

A clause is flat: the conditions of all groups, one after another, each in parentheses and each
but the first behind its connective. So two things hold of the calls that made a filter.

- The clause depends on nothing but the flattened conditions: not on where one group ends and the
  next begins, not on empty groups, and not on the connective of the very first condition, which
  is never written.
- When every predicate is well quoted, the clause determines the flattened conditions up to that
  one connective. A predicate may contain `) AND (` inside quotes or in parentheses of its own:
  the scan of a balanced text still ends at the parenthesis that the clause wrote.

`Written.append_unique` is the second fact with any text behind the conditions, so that a reader
of a whole statement can use it too. It asks of that text only that no further condition begins
there.
-/

namespace Statements

open Text (Balanced)

/-- A condition as the clause shows it: the connective, and the predicate's text. -/
abbrev Written := Connective × String

namespace Written

/-- What stands before the text of a condition that follows another. -/
def opening (connective : Connective) : List Char :=
  ' ' :: (connective.text.toList ++ [' ', '('])

/-- The condition as it follows another. -/
def chars (written : Written) : List Char := opening written.1 ++ (written.2.toList ++ [')'])

/-- No further condition begins here. -/
def Ends (rest : List Char) : Prop := ∀ connective, ¬ opening connective <+: rest

theorem ends_nil : Ends [] := by
  intro connective opened
  have empty := List.prefix_nil.mp opened
  exact nomatch empty

/-- The two connectives differ in their first letter. -/
theorem opening_append_unique {c d : Connective} {r s : List Char}
    (same : opening c ++ r = opening d ++ s) : c = d ∧ r = s := by
  cases c <;> cases d
  · exact ⟨rfl, List.append_cancel_left same⟩
  · cases (List.cons.inj (List.cons.inj same).2).1
  · cases (List.cons.inj (List.cons.inj same).2).1
  · exact ⟨rfl, List.append_cancel_left same⟩

theorem chars_append_unique {x y : Written} {r s : List Char} (left : Balanced x.2)
    (right : Balanced y.2) (same : x.chars ++ r = y.chars ++ s) : x = y ∧ r = s := by
  simp only [chars, List.append_assoc, List.singleton_append] at same
  obtain ⟨connectives, rest⟩ := opening_append_unique same
  obtain ⟨texts, tails⟩ := left.append_close right rest
  exact ⟨Prod.ext connectives texts, tails⟩

theorem not_ends_cons (written : Written) (more : List Written) (rest : List Char) :
    ¬ Ends ((written :: more).flatMap chars ++ rest) := by
  intro ends
  refine ends written.1 ?_
  rw [List.flatMap_cons, chars, List.append_assoc, List.append_assoc]
  exact List.prefix_append _ _

/-- **Conditions can be read off**: conditions with balanced texts, and whatever follows where no
further condition begins, are determined by the characters. -/
theorem append_unique {xs ys : List Written} {r s : List Char}
    (left : ∀ x ∈ xs, Balanced x.2) (right : ∀ y ∈ ys, Balanced y.2) (endsLeft : Ends r)
    (endsRight : Ends s) (same : xs.flatMap chars ++ r = ys.flatMap chars ++ s) :
    xs = ys ∧ r = s := by
  induction xs generalizing ys with
  | nil =>
    cases ys with
    | nil => exact ⟨rfl, same⟩
    | cons y ys =>
      rw [List.flatMap_nil, List.nil_append] at same
      exact absurd (same ▸ endsLeft) (not_ends_cons y ys s)
  | cons x xs ih =>
    cases ys with
    | nil =>
      rw [List.flatMap_nil, List.nil_append] at same
      exact absurd (same ▸ endsRight) (not_ends_cons x xs r)
    | cons y ys =>
      rw [List.flatMap_cons, List.flatMap_cons, List.append_assoc, List.append_assoc] at same
      obtain ⟨balancedX, balancedXs⟩ := List.forall_mem_cons.mp left
      obtain ⟨balancedY, balancedYs⟩ := List.forall_mem_cons.mp right
      obtain ⟨rfl, rest⟩ := chars_append_unique balancedX balancedY same
      obtain ⟨rfl, tails⟩ := ih balancedXs balancedYs rest
      exact ⟨rfl, tails⟩

/-- The clause of written conditions. -/
def clause? : List Written → Option (List Char)
  | [] => none
  | first :: others =>
    some ("WHERE (".toList ++ (first.2.toList ++ ')' :: others.flatMap chars))

theorem clause?_eq_none_iff {xs : List Written} : clause? xs = none ↔ xs = [] := by
  cases xs with
  | nil => exact ⟨fun _ => rfl, fun _ => rfl⟩
  | cons x xs => exact ⟨(nomatch ·), (nomatch ·)⟩

/-- The same conditions, but perhaps for the connective of the first. -/
def SameButFirst (xs ys : List Written) : Prop :=
  xs.map Prod.snd = ys.map Prod.snd ∧ xs.tail = ys.tail

instance (xs ys : List Written) : Decidable (SameButFirst xs ys) :=
  inferInstanceAs (Decidable (_ ∧ _))

/-- The first connective is not written. -/
theorem clause?_congr {xs ys : List Written} (same : SameButFirst xs ys) :
    clause? xs = clause? ys := by
  obtain ⟨texts, tails⟩ := same
  cases xs with
  | nil =>
    obtain rfl := List.map_eq_nil_iff.mp texts.symm
    rfl
  | cons x xs =>
    cases ys with
    | nil => exact nomatch texts
    | cons y ys =>
      obtain rfl : xs = ys := tails
      have first : x.2 = y.2 := (List.cons.inj texts).1
      rw [clause?, clause?, first]

/-- A clause and what follows it determine the conditions, but for the first connective. -/
theorem sameButFirst_of_clause?_append {xs ys : List Written} {p q r s : List Char}
    (left : ∀ x ∈ xs, Balanced x.2) (right : ∀ y ∈ ys, Balanced y.2) (endsLeft : Ends r)
    (endsRight : Ends s) (leftText : clause? xs = some p) (rightText : clause? ys = some q)
    (same : p ++ r = q ++ s) : SameButFirst xs ys ∧ r = s := by
  cases xs with
  | nil => exact nomatch leftText
  | cons x xs =>
    cases ys with
    | nil => exact nomatch rightText
    | cons y ys =>
      obtain rfl := Option.some.inj leftText
      obtain rfl := Option.some.inj rightText
      simp only [List.append_assoc, List.cons_append] at same
      have rest := List.append_cancel_left same
      obtain ⟨balancedX, balancedXs⟩ := List.forall_mem_cons.mp left
      obtain ⟨balancedY, balancedYs⟩ := List.forall_mem_cons.mp right
      obtain ⟨first, others⟩ := balancedX.append_close balancedY rest
      obtain ⟨rfl, tails⟩ := append_unique balancedXs balancedYs endsLeft endsRight others
      exact ⟨⟨congrArg (· :: xs.map Prod.snd) first, rfl⟩, tails⟩

end Written

/-! ## The clause of a filter -/

namespace Filter

/-- The conditions as the clause shows them. -/
def written (filter : Filter) : List Written :=
  filter.conditions.map fun condition => (condition.connective, condition.predicate.text)

theorem toList_joined (condition : Condition) :
    condition.joined.toList =
      Written.chars (condition.connective, condition.predicate.text) := by
  simp only [Condition.joined, Condition.text, Written.chars, Written.opening,
    String.toList_append, List.append_assoc, List.cons_append]
  rfl

/-- The clause is written from the written conditions alone. -/
theorem text?_map_toList (filter : Filter) :
    filter.text?.map String.toList = Written.clause? filter.written := by
  obtain ⟨conditions⟩ := filter
  cases conditions with
  | nil => rfl
  | cons first others =>
    have joined : (String.join (others.map Condition.joined)).toList =
        (others.map fun condition =>
          (condition.connective, condition.predicate.text)).flatMap Written.chars := by
      rw [String.toList_join, List.flatMap_map, List.flatMap_map]
      exact List.flatMap_congr fun condition _ => toList_joined condition
    simp only [text?, written, Option.map_some, List.map_cons, Written.clause?, Condition.text,
      String.toList_append, joined, List.append_assoc]
    rfl

theorem text?_eq_iff {filter other : Filter} :
    filter.text? = other.text? ↔
      Written.clause? filter.written = Written.clause? other.written := by
  rw [← text?_map_toList, ← text?_map_toList]
  exact (Option.map_injective fun _ _ same => String.toList_injective same).eq_iff.symm

end Filter

/-! ## Groups -/

/-- Calls that add one group each, with the connective of the group. -/
abbrev GroupCalls := List (Connective × List Predicate)

namespace GroupCalls

/-- The filter that the calls make, one after another. -/
def filter (calls : GroupCalls) : Filter :=
  calls.foldl (fun filter call => filter.push call.1 call.2) .empty

/-- The conditions that the calls bring, in order: groups are forgotten, empty ones too. -/
def flattened (calls : GroupCalls) : List Written :=
  calls.flatMap fun call => call.2.map fun predicate => (call.1, predicate.text)

theorem written_push (filter : Filter) (connective : Connective) (group : List Predicate) :
    (filter.push connective group).written =
      filter.written ++ group.map fun predicate => (connective, predicate.text) := by
  simp only [Filter.push, Filter.written, List.map_append, List.map_map, Function.comp_def]

/-- A filter shows its calls flattened. -/
theorem written_filter (calls : GroupCalls) : calls.filter.written = calls.flattened := by
  have run : ∀ start : Filter,
      (calls.foldl (fun filter call => filter.push call.1 call.2) start).written =
        start.written ++ calls.flattened := by
    induction calls with
    | nil => exact fun start => (List.append_nil _).symm
    | cons call calls ih =>
      intro start
      rw [List.foldl_cons, ih, written_push, List.append_assoc]
      rfl
  exact run .empty

/-- Well-quoted predicates are shown as balanced texts. -/
theorem balanced_flattened {calls : GroupCalls}
    (quoted : ∀ call ∈ calls, ∀ predicate ∈ call.2, predicate.WellQuoted) :
    ∀ written ∈ calls.flattened, Balanced written.2 := by
  intro written mem
  obtain ⟨call, among, mem⟩ := List.mem_flatMap.mp mem
  obtain ⟨predicate, inGroup, rfl⟩ := List.mem_map.mp mem
  exact (quoted call among predicate inGroup).balanced_text

/-- **A clause depends on the flattened conditions only, and determines them.** The connective of
the first condition is out of both halves: it is never written. -/
theorem text?_filter_unambiguous (calls others : GroupCalls) :
    (Written.SameButFirst calls.flattened others.flattened →
      calls.filter.text? = others.filter.text?) ∧
    ((∀ call ∈ calls ++ others, ∀ predicate ∈ call.2, predicate.WellQuoted) →
      calls.filter.text? = others.filter.text? →
        Written.SameButFirst calls.flattened others.flattened) := by
  rw [Filter.text?_eq_iff, written_filter, written_filter]
  refine ⟨Written.clause?_congr, ?_⟩
  intro quoted same
  have left := balanced_flattened fun call mem => quoted call (List.mem_append_left others mem)
  have right := balanced_flattened fun call mem => quoted call (List.mem_append_right calls mem)
  cases leftText : Written.clause? calls.flattened with
  | none =>
    -- no clause, so no conditions on either side
    rw [Written.clause?_eq_none_iff.mp leftText,
      Written.clause?_eq_none_iff.mp (same.symm.trans leftText)]
    exact ⟨rfl, rfl⟩
  | some text =>
    exact (Written.sameButFirst_of_clause?_append left right Written.ends_nil Written.ends_nil
      leftText (same.symm.trans leftText) rfl).1

/-- Calls whose predicates contain what stands between conditions. -/
def nested : GroupCalls :=
  [(.or, []), (.or, [.raw "f(a) = ') AND ('"]),
    (.and, [.compare "(b)" .isIn (.text ") OR ("), .raw "", .list "c" .notIn [.null, .text "("]])]

/-- The same conditions in other groups, with another first connective. -/
def regrouped : GroupCalls :=
  [(.and, [.raw "f(a) = ') AND ('", .compare "(b)" .isIn (.text ") OR (")]), (.or, []),
    (.and, [.raw ""]), (.and, [.list "c" .notIn [.null, .text "("]])]

theorem text?_filter_nested :
    (∀ call ∈ nested ++ regrouped, ∀ predicate ∈ call.2, predicate.WellQuoted) ∧
      nested.filter.text? = regrouped.filter.text? ∧
      Written.SameButFirst nested.flattened regrouped.flattened := by
  have quoted : ∀ call ∈ nested ++ regrouped, ∀ predicate ∈ call.2, predicate.WellQuoted := by
    decide
  have same : Written.SameButFirst nested.flattened regrouped.flattened := by decide
  have texts := (text?_filter_unambiguous nested regrouped).1 same
  exact ⟨quoted, texts, (text?_filter_unambiguous nested regrouped).2 quoted texts⟩

end GroupCalls

end Statements
