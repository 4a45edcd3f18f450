import Statements.Parameters
import Statements.Proofs.Filter.Equality
import Statements.Proofs.Upsert.Unambiguous

/-!
# What equality says of texts

Rows and parameters hold scalars, and they are equal if all else in them is the same and the scalars
are equal. So their equality is that of scalars once more: it can be turned round and chained, and
a row or a list of parameters equals itself exactly if no scalar in it, at any depth, is no number.

Equal rows are one row but for opposite zeros (`Row.eq_of_not_opposed`), and opposite zeros are
written apart. Hence equality is respected by the statements that rows and predicates are written
into, with this one exception (`equality_respected`).
-/

namespace Statements

/-! ## Rows -/

namespace Row

variable {row other : Row}

/-- Equal rows name the same columns, and their scalars are equal. -/
theorem beq_iff : (row == other) = true ↔
    row.columns = other.columns ∧ (row.scalars == other.scalars) = true := by
  obtain ⟨entries⟩ := row
  obtain ⟨others⟩ := other
  show (entries == others) = true ↔
    entries.map Prod.fst = others.map Prod.fst ∧
      (entries.map Prod.snd == others.map Prod.snd) = true
  induction entries generalizing others with
  | nil => cases others <;> simp
  | cons entry entries ih =>
    cases others with
    | nil => simp
    | cons entry' others =>
      obtain ⟨column, scalar⟩ := entry
      obtain ⟨column', scalar'⟩ := entry'
      have pair : ((column, scalar) == (column', scalar')) =
          (column == column' && scalar == scalar') := rfl
      simp only [List.cons_beq_cons, List.map_cons, List.cons.injEq, Bool.and_eq_true, ih, pair,
        beq_iff_eq]
      exact and_and_and_comm

theorem partialEquality : PartialEquality scalars :=
  PartialEquality.scalars.framed columns scalars beq_iff

/-- Equal rows are one row but for opposite zeros. -/
theorem eq_of_not_opposed (alike : (row == other) = true)
    (none : ¬ Scalar.Opposed row.scalars other.scalars) : row = other := by
  obtain ⟨columns, scalars⟩ := beq_iff.mp alike
  have zipped : ∀ row : Row, row.entries = row.columns.zip row.scalars :=
    fun _ => List.zip_of_prod rfl rfl
  have entries : row.entries = other.entries := by
    rw [zipped row, zipped other, columns, Scalar.eq_of_not_opposed scalars none]
  exact congrArg Row.mk entries

end Row

/-- **Equal rows are upserted alike** but for opposite zeros. -/
theorem Upsert.statement_eq_iff {row other : Row} {table : String}
    (alike : (row == other) = true) :
    statement table (literals row) = statement table (literals other) ↔
      ¬ Scalar.Opposed row.scalars other.scalars := by
  constructor
  · intro same opposed
    obtain ⟨columns, scalars⟩ := Row.beq_iff.mp alike
    have apart := Scalar.apart_listing scalars opposed
    have chars := congrArg String.toList same
    simp only [toList_statement, names_literals, values_literals, columns,
      List.append_cancel_left_eq, List.cons.injEq, true_and, List.append_assoc] at chars
    exact (apart.append_right _ _).ne chars
  · intro none
    rw [Row.eq_of_not_opposed alike none]

/-! ## Parameters -/

/-- The scalars of a parameter, those of its rows among them. -/
def Parameter.scalars : Parameter → List Scalar
  | .value scalar => [scalar]
  | .rows several => several.flatMap Row.scalars

theorem Parameter.partialEquality : PartialEquality Parameter.scalars where
  symm := by
    intro p q alike
    cases p <;> cases q
    case value.value v w =>
      have scalars : (v == w) = true := alike
      exact PartialEquality.scalar.symm scalars
    case rows.rows rs ss =>
      have rows : (rs == ss) = true := alike
      exact Row.partialEquality.list.symm rows
    all_goals cases alike
  trans := by
    intro p q r left right
    cases p <;> cases q <;> cases r
    case value.value.value u v w =>
      have scalars : (u == v) = true := left
      exact PartialEquality.scalar.trans scalars right
    case rows.rows.rows rs ss ts =>
      have rows : (rs == ss) = true := left
      exact Row.partialEquality.list.trans rows right
    all_goals first | cases left | cases right
  self_iff := by
    intro p
    cases p with
    | value v =>
      show (v == v) = true ↔ ∀ scalar ∈ [v], _
      exact PartialEquality.scalar.self_iff
    | rows rs =>
      show (rs == rs) = true ↔ ∀ scalar ∈ rs.flatMap Row.scalars, _
      exact Row.partialEquality.list.self_iff

/-- All scalars that are bound, in rows or alone. -/
def Parameters.scalars (parameters : Parameters) : List Scalar :=
  parameters.entries.flatMap fun entry => entry.2.scalars

theorem Parameters.partialEquality : PartialEquality Parameters.scalars := by
  have entry : PartialEquality fun entry : String × Parameter => entry.2.scalars := by
    refine Parameter.partialEquality.framed Prod.fst Prod.snd ?_
    rintro ⟨name, parameter⟩ ⟨name', parameter'⟩
    show (name == name' && parameter == parameter') = true ↔ _
    rw [Bool.and_eq_true, beq_iff_eq]
  refine entry.list.framed (fun _ => ()) Parameters.entries ?_
  intro parameters others
  exact (and_iff_right rfl).symm

/-! ## Texts -/

/-- **Equality is respected by texts, with one exception.** Equal rows are upserted alike exactly if
they nowhere hold opposite zeros. Equal predicates that hold no opposite zeros make the same clause,
and what matters of those that they hold is what they write. Equality itself can be turned round and
chained, and only what holds no number that is none equals itself. -/
theorem equality_respected :
    (∀ {row other : Row} {table : String}, table ≠ "" → (row == other) = true →
      ∃ text otherText : String, Upsert.built row table = .ok text ∧
        Upsert.built other table = .ok otherText ∧
        (text = otherText ↔ ¬ Scalar.Opposed row.scalars other.scalars)) ∧
    (∀ {calls others : GroupCalls}, List.Forall₂ GroupCalls.Alike calls.tied others.tied →
      (GroupCalls.Unopposed Predicate.scalars calls others →
        calls.filter.text? = others.filter.text?) ∧
      (calls.filter.text? = others.filter.text? ↔
        GroupCalls.Unopposed Predicate.written calls others)) ∧
    PartialEquality Row.scalars ∧ PartialEquality Predicate.scalars ∧
      PartialEquality Parameters.scalars := by
  refine ⟨?_, ?_, Row.partialEquality, Predicate.partialEquality, Parameters.partialEquality⟩
  · intro row other table named alike
    exact ⟨_, _, Upsert.built_eq_ok row named, Upsert.built_eq_ok other named,
      Upsert.statement_eq_iff alike⟩
  · intro calls others alike
    have clauses := GroupCalls.text?_filter_of_alike alike
    exact ⟨fun none => clauses.mpr (.of_scalars alike none), clauses⟩

/-- A row with a zero of the given sign, behind a text that looks like the other. -/
def signedZero (negative : Bool) : Row :=
  .ofList [("a", .text "0', -0"), ("b", .float (.ofRank negative 0))]

/-- A null check that was given a zero of the given sign, and a list in the same group. -/
def checkedZero (negative : Bool) : GroupCalls :=
  [(.and, [.compare "a" .isNull (.float (.ofRank negative 0)), .list "b" .notIn [.text "0"]])]

/-- The same conditions in groups of their own. -/
def checkedApart (negative : Bool) : GroupCalls :=
  [(.or, []), (.and, [.compare "a" .isNull (.float (.ofRank negative 0))]),
    (.and, [.list "b" .notIn [.text "0"]])]

/-- A bound row with a double that is no number. -/
def noNumber : Parameters :=
  Parameters.empty.bindRows "$rows" [.ofList [("a", .float ⟨0x7ff8000000000000⟩)]]

theorem equality_respected_zeros :
    (signedZero false == signedZero true) = true ∧
      Upsert.built (signedZero false) "t" ≠ Upsert.built (signedZero true) "t" ∧
      List.Forall₂ GroupCalls.Alike (checkedZero false).tied (checkedApart false).tied ∧
      (checkedZero false).filter.text? = (checkedApart false).filter.text? ∧
      List.Forall₂ GroupCalls.Alike (checkedZero false).tied (checkedApart true).tied ∧
      (checkedZero false).filter.text? = (checkedApart true).filter.text? ∧
      (noNumber == noNumber) = false := by
  obtain ⟨rows, filters, -, -, parameters⟩ := equality_respected
  have alike : (signedZero false == signedZero true) = true := by decide
  have same : List.Forall₂ GroupCalls.Alike (checkedZero false).tied (checkedApart false).tied :=
    .cons ⟨rfl, by decide⟩ (.cons ⟨rfl, by decide⟩ .nil)
  have opposite : List.Forall₂ GroupCalls.Alike (checkedZero false).tied (checkedApart true).tied :=
    .cons ⟨rfl, by decide⟩ (.cons ⟨rfl, by decide⟩ .nil)
  refine ⟨alike, ?_, same, ?_, opposite, ?_, ?_⟩
  · have named : ("t" : String) ≠ "" := by decide
    obtain ⟨text, otherText, left, right, respected⟩ := rows named alike
    rw [left, right]
    intro written
    exact respected.mp (Except.ok.inj written) (by decide)
  · exact (filters same).1 (.cons (by decide) (.cons (by decide) .nil))
  · exact (filters opposite).2.mpr (.cons (by decide) (.cons (by decide) .nil))
  · rw [Bool.eq_false_iff, ne_eq, parameters.self_iff]
    decide

end Statements
