import Mathlib.Data.List.Infix
import Statements.Proofs.Text.Balanced

/-!
# Plain texts and optional clauses

Names and numbers stand in a statement without quotes, so they can be told from what follows them
only if they do not contain it. A **plain** text is not empty and has none of the characters that
statements put between texts: it ends where the first of those stands (`Plain.append_unique`).

Behind a plain text may stand clauses that are there or not, each a keyword and a plain text, and a
semicolon in the end. A text may equal a keyword, and any of the clauses may be left out, but a
keyword begins with a delimiter and none begins another, so the characters still determine which
clauses are there and what they say (`Clause.row_unique`).
-/

namespace Statements.Text

/-- A blank, a comma, a semicolon, a parenthesis or a single quote. -/
def isDelimiter (c : Char) : Bool := [' ', ',', ';', '(', ')', '\''].contains c

/-- Not empty, and without delimiters. -/
def Plain (text : String) : Prop := text ≠ "" ∧ text.toList.all (fun c => !isDelimiter c) = true

instance (text : String) : Decidable (Plain text) := inferInstanceAs (Decidable (_ ∧ _))

theorem Plain.not_isDelimiter {text : String} (plain : Plain text) {c : Char}
    (mem : c ∈ text.toList) : isDelimiter c = false := by
  have noDelimiter := List.all_eq_true.mp plain.2 c mem
  simpa using noDelimiter

/-- A plain text has neither quotes nor parentheses. -/
theorem Plain.balanced {text : String} (plain : Plain text) : Balanced text := by
  refine Balanced.of_inert fun c mem => ?_
  have noDelimiter := plain.not_isDelimiter mem
  refine ⟨?_, ?_, ?_⟩ <;>
  · rintro rfl
    cases noDelimiter

/-- A plain text does not begin with a delimiter. -/
theorem Plain.append_ne_cons {text : String} (plain : Plain text) {d : Char}
    (delimiter : isDelimiter d = true) (rest behind : List Char) :
    text.toList ++ rest ≠ d :: behind := by
  intro same
  cases front : text.toList with
  | nil => exact plain.1 (String.toList_eq_nil_iff.mp front)
  | cons c chars =>
    rw [front] at same
    obtain rfl := (List.cons.inj same).1
    rw [plain.not_isDelimiter (front ▸ List.mem_cons_self)] at delimiter
    cases delimiter

/-- A delimiter stands at the front. -/
def Breaks : List Char → Prop
  | [] => False
  | c :: _ => isDelimiter c = true

instance : (rest : List Char) → Decidable (Breaks rest)
  | [] => inferInstanceAs (Decidable False)
  | _ :: _ => inferInstanceAs (Decidable (_ = true))

theorem Breaks.of_begins {front rest : List Char} (breaks : Breaks front)
    (stands : front <+: rest) : Breaks rest := by
  obtain ⟨more, rfl⟩ := stands
  cases front with
  | nil => exact breaks.elim
  | cons c front => exact breaks

theorem Breaks.exists_head {rest : List Char} (breaks : Breaks rest) :
    ∃ c ∈ rest.head?, isDelimiter c = true := by
  cases rest with
  | nil => exact breaks.elim
  | cons c rest => exact ⟨c, rfl, breaks⟩

/-- Characters of which none is a stop end where the first stop stands. -/
theorem append_unique_of_stop {stop : Char → Prop} {p q r s : List Char}
    (left : ∀ c ∈ p, ¬ stop c) (right : ∀ c ∈ q, ¬ stop c) (stopsLeft : ∃ c ∈ r.head?, stop c)
    (stopsRight : ∃ c ∈ s.head?, stop c) (same : p ++ r = q ++ s) : p = q ∧ r = s := by
  induction p generalizing q with
  | nil =>
    cases q with
    | nil => exact ⟨rfl, same⟩
    | cons d q =>
      obtain rfl : r = d :: (q ++ s) := same
      obtain ⟨c, front, stopped⟩ := stopsLeft
      obtain rfl := Option.some.inj front
      exact absurd stopped (right d List.mem_cons_self)
  | cons c p ih =>
    cases q with
    | nil =>
      obtain rfl : c :: (p ++ r) = s := same
      obtain ⟨d, front, stopped⟩ := stopsRight
      obtain rfl := Option.some.inj front
      exact absurd stopped (left c List.mem_cons_self)
    | cons d q =>
      obtain ⟨rfl, rest⟩ := List.cons.inj same
      obtain ⟨-, left⟩ := List.forall_mem_cons.mp left
      obtain ⟨-, right⟩ := List.forall_mem_cons.mp right
      obtain ⟨rfl, tails⟩ := ih left right rest
      exact ⟨rfl, tails⟩

/-- A text without a character ends where that character stands. -/
theorem append_cons_unique {c : Char} {p q r s : List Char} (left : c ∉ p) (right : c ∉ q)
    (same : p ++ c :: r = q ++ c :: s) : p = q ∧ r = s := by
  have stops : ∀ rest : List Char, ∃ d ∈ (c :: rest).head?, d = c := fun rest => ⟨c, rfl, rfl⟩
  obtain ⟨texts, tails⟩ := append_unique_of_stop (fun d mem => ne_of_mem_of_not_mem mem left)
    (fun d mem => ne_of_mem_of_not_mem mem right) (stops r) (stops s) same
  exact ⟨texts, (List.cons.inj tails).2⟩

/-- Where characters without delimiters end. -/
theorem append_unique_of_breaks {p q r s : List Char} (left : ∀ c ∈ p, isDelimiter c = false)
    (right : ∀ c ∈ q, isDelimiter c = false) (breaksLeft : Breaks r) (breaksRight : Breaks s)
    (same : p ++ r = q ++ s) : p = q ∧ r = s :=
  append_unique_of_stop (fun c mem => Bool.eq_false_iff.mp (left c mem))
    (fun c mem => Bool.eq_false_iff.mp (right c mem)) breaksLeft.exists_head
    breaksRight.exists_head same

/-- **Where a plain text ends.** -/
theorem Plain.append_unique {p q : String} {r s : List Char} (left : Plain p) (right : Plain q)
    (breaksLeft : Breaks r) (breaksRight : Breaks s)
    (same : p.toList ++ r = q.toList ++ s) : p = q ∧ r = s := by
  obtain ⟨texts, tails⟩ := append_unique_of_breaks (fun _ mem => left.not_isDelimiter mem)
    (fun _ mem => right.not_isDelimiter mem) breaksLeft breaksRight same
  exact ⟨String.toList_injective texts, tails⟩

/-! ## Clauses that may be there -/

/-- Neither begins with the other, so at most one of them stands at the front of a text. -/
def Apart (front other : List Char) : Prop := ¬ front <+: other ∧ ¬ other <+: front

instance (front other : List Char) : Decidable (Apart front other) :=
  inferInstanceAs (Decidable (_ ∧ _))

theorem Apart.not_begins {front other rest : List Char} (apart : Apart other front)
    (stands : front <+: rest) : ¬ other <+: rest := by
  intro otherStands
  rcases List.prefix_or_prefix_of_prefix otherStands stands with begins | begins
  · exact apart.1 begins
  · exact apart.2 begins

theorem Apart.symm {front other : List Char} (apart : Apart front other) : Apart other front :=
  And.symm apart

theorem Apart.ne {front other : List Char} (apart : Apart front other) : front ≠ other := by
  rintro rfl
  exact apart.1 (List.prefix_refl front)

/-- The difference stays, whatever stands before both. -/
theorem Apart.append_left {front other : List Char} (apart : Apart front other)
    (before : List Char) : Apart (before ++ front) (before ++ other) := by
  simpa only [Apart, List.prefix_append_right_inj] using apart

/-- The difference stays, whatever stands behind each. -/
theorem Apart.append_right {front other : List Char} (apart : Apart front other)
    (behind rest : List Char) : Apart (front ++ behind) (other ++ rest) := by
  have stays : ∀ {p q : List Char} (r s : List Char), Apart p q → ¬ p ++ r <+: q ++ s :=
    fun r s apart begins =>
      apart.not_begins (List.prefix_append _ s) ((List.prefix_append _ r).trans begins)
  exact ⟨stays behind rest apart, stays rest behind apart.symm⟩

/-- A keyword, and the text behind it if the clause is there. -/
abbrev Clause := List Char × Option String

namespace Clause

def chars (clause : Clause) : List Char :=
  clause.2.elim [] fun text => clause.1 ++ text.toList

/-- The clauses that are there, in order, and the semicolon. -/
def row (clauses : List Clause) : List Char := clauses.flatMap chars ++ [';']

/-- What may stand at the front of a row. -/
def fronts (clauses : List Clause) : List (List Char) := clauses.map Prod.fst ++ [[';']]

theorem row_cons (clause : Clause) (clauses : List Clause) :
    row (clause :: clauses) = clause.chars ++ row clauses := by
  rw [row, List.flatMap_cons, List.append_assoc, row]

/-- A keyword of the row or the semicolon does stand there. -/
theorem exists_front (clauses : List Clause) : ∃ front ∈ fronts clauses, front <+: row clauses := by
  induction clauses with
  | nil => exact ⟨[';'], List.mem_singleton_self _, List.prefix_refl _⟩
  | cons clause clauses ih =>
    obtain ⟨keyword, value⟩ := clause
    rw [row_cons]
    cases value with
    | none =>
      obtain ⟨front, mem, stands⟩ := ih
      exact ⟨front, List.mem_cons_of_mem keyword mem, stands⟩
    | some text =>
      refine ⟨keyword, List.mem_cons_self, ?_⟩
      rw [chars, Option.elim_some, List.append_assoc]
      exact List.prefix_append _ _

/-- A row begins with a delimiter if all its keywords do. -/
theorem breaks_row {clauses : List Clause} (breaks : ∀ front ∈ fronts clauses, Breaks front) :
    Breaks (row clauses) := by
  obtain ⟨front, mem, stands⟩ := exists_front clauses
  exact (breaks front mem).of_begins stands

/-- What is apart from all the keywords does not begin a row. -/
theorem not_prefix_row {clauses : List Clause} {other : List Char}
    (apart : ∀ front ∈ fronts clauses, Apart other front) : ¬ other <+: row clauses := by
  obtain ⟨front, mem, stands⟩ := exists_front clauses
  exact (apart front mem).not_begins stands

theorem chars_some (keyword : List Char) (text : String) (rest : List Char) :
    chars (keyword, some text) ++ rest = keyword ++ (text.toList ++ rest) :=
  List.append_assoc _ _ _

/-- **Optional clauses can be read off**, whichever of them are there. -/
theorem row_unique {xs ys : List Clause} (keywords : xs.map Prod.fst = ys.map Prod.fst)
    (apart : (fronts xs).Pairwise Apart) (breaks : ∀ front ∈ fronts xs, Breaks front)
    (left : ∀ x ∈ xs, ∀ text ∈ x.2, Plain text) (right : ∀ y ∈ ys, ∀ text ∈ y.2, Plain text)
    (same : row xs = row ys) : xs = ys := by
  induction xs generalizing ys with
  | nil => exact (List.map_eq_nil_iff.mp keywords.symm).symm
  | cons x xs ih =>
    obtain _ | ⟨y, ys⟩ := ys
    · cases keywords
    obtain ⟨keyword, a⟩ := x
    obtain ⟨other, b⟩ := y
    obtain ⟨key, others⟩ := List.cons.inj keywords
    obtain rfl : keyword = other := key
    have fronts_eq : fronts xs = fronts ys := congrArg (· ++ [[';']]) others
    obtain ⟨first, later⟩ : (∀ front ∈ fronts xs, Apart keyword front) ∧
        (fronts xs).Pairwise Apart := List.pairwise_cons.mp apart
    have delimited : ∀ front ∈ fronts xs, Breaks front :=
      fun front mem => breaks front (List.mem_cons_of_mem keyword mem)
    obtain ⟨plainLeft, plainXs⟩ := List.forall_mem_cons.mp left
    obtain ⟨plainRight, plainYs⟩ := List.forall_mem_cons.mp right
    have onward : row xs = row ys → xs = ys := ih others later delimited plainXs plainYs
    rw [row_cons, row_cons] at same
    cases a with
    | none =>
      cases b with
      | none => rw [onward same]
      | some text =>
        -- the keyword would stand at the front of the other clauses
        rw [chars_some] at same
        exact absurd ⟨_, same.symm⟩ (not_prefix_row first)
    | some text =>
      rw [chars_some] at same
      cases b with
      | none =>
        rw [fronts_eq] at first
        exact absurd ⟨_, same⟩ (not_prefix_row first)
      | some text' =>
        rw [chars_some] at same
        have behind := List.append_cancel_left same
        have breaksRight : Breaks (row ys) := breaks_row (fronts_eq ▸ delimited)
        obtain ⟨rfl, rest⟩ := (plainLeft text rfl).append_unique (plainRight text' rfl)
          (breaks_row delimited) breaksRight behind
        rw [onward rest]

end Clause

end Statements.Text
