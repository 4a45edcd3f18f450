import Statements.Proofs.Select.Growth
import Statements.Proofs.Text.Listing

/-!
# What a select statement says of its calls

A select statement is read from the left, and each clause ends where something stands that the
clause cannot contain. Columns, the table, the order, the limit and the offset are plain and end at
the next delimiter. The conditions are balanced, so each ends at the parenthesis that the clause
closes, whatever keywords it contains, and the clause ends where no connective follows.

`Clauses` is what the calls of a flow bring to the statement: no columns are the star, groups are
flattened, and values are what is written of them. The statement is written from it
(`Flow.toList_text`), and it can be read back (`Clauses.same_of_chars_eq`) but for the connective of
the first condition. A column may be named like a keyword and a table like another, for the reader
knows from the place what it reads. So two flows build the same text exactly if they bring the same
(`built?_unambiguous`).
-/

namespace Statements

open Text (Balanced Plain Breaks Clause listing)

/-! ## Conditions -/

namespace Written

/-- The clause with a blank before it, if there is one. -/
def clauseChars (conditions : List Written) : List Char :=
  (clause? conditions).elim [] (' ' :: ·)

theorem where_begins {xs : List Written} {p : List Char} (text : clause? xs = some p)
    (rest : List Char) : " WHERE ".toList <+: ' ' :: p ++ rest := by
  cases xs with
  | nil => cases text
  | cons x xs =>
    obtain rfl := Option.some.inj text
    exact ⟨_, rfl⟩

/-- The conditions are determined but for the first connective, where neither the clause nor a
further condition begins behind them. -/
theorem clauseChars_append_unique {xs ys : List Written} {r s : List Char}
    (left : ∀ x ∈ xs, Balanced x.2) (right : ∀ y ∈ ys, Balanced y.2) (endsLeft : Ends r)
    (endsRight : Ends s) (noneLeft : ¬ " WHERE ".toList <+: r)
    (noneRight : ¬ " WHERE ".toList <+: s) (same : clauseChars xs ++ r = clauseChars ys ++ s) :
    SameButFirst xs ys ∧ r = s := by
  unfold clauseChars at same
  cases leftText : clause? xs with
  | none =>
    cases rightText : clause? ys with
    | none =>
      rw [leftText, rightText] at same
      rw [clause?_eq_none_iff.mp leftText, clause?_eq_none_iff.mp rightText]
      exact ⟨⟨rfl, rfl⟩, same⟩
    | some q =>
      rw [leftText, rightText] at same
      obtain rfl : r = ' ' :: q ++ s := same
      exact absurd (where_begins rightText s) noneLeft
  | some p =>
    cases rightText : clause? ys with
    | none =>
      rw [leftText, rightText] at same
      obtain rfl : ' ' :: p ++ r = s := same
      exact absurd (where_begins leftText r) noneRight
    | some q =>
      rw [leftText, rightText] at same
      exact sameButFirst_of_clause?_append left right endsLeft endsRight leftText rightText
        (List.cons.inj same).2

end Written

namespace Select

/-! ## What is written of the calls -/

/-- What a select statement shows. It always shows columns. -/
structure Clauses where
  columns : List String
  table : String
  conditions : List Written
  order : Option String
  limit : Option String
  offset : Option String
  columns_ne_nil : columns ≠ []

namespace Clauses

/-- What is written as it is, is plain, and the conditions are balanced. -/
structure Tame (clauses : Clauses) : Prop where
  columns : ∀ column ∈ clauses.columns, Plain column
  table : Plain clauses.table
  conditions : ∀ written ∈ clauses.conditions, Balanced written.2
  order : ∀ column ∈ clauses.order, Plain column
  limit : ∀ rows ∈ clauses.limit, Plain rows
  offset : ∀ rows ∈ clauses.offset, Plain rows

/-- The clauses are the same, but perhaps for the connective of the first condition. -/
structure Same (clauses other : Clauses) : Prop where
  columns : clauses.columns = other.columns
  table : clauses.table = other.table
  conditions : Written.SameButFirst clauses.conditions other.conditions
  order : clauses.order = other.order
  limit : clauses.limit = other.limit
  offset : clauses.offset = other.offset

/-- What may follow the conditions. -/
def later (clauses : Clauses) : List Clause :=
  [(" ORDER BY ".toList, clauses.order), (" LIMIT ".toList, clauses.limit),
    (" OFFSET ".toList, clauses.offset)]

/-- The statement. -/
def chars (clauses : Clauses) : List Char :=
  "SELECT ".toList ++ (listing clauses.columns ++ (" FROM ".toList ++ (clauses.table.toList ++
    (Written.clauseChars clauses.conditions ++ Clause.row clauses.later))))

variable {clauses other : Clauses}

/-! ### Where the clauses end -/

theorem fronts_later (clauses : Clauses) : Clause.fronts clauses.later =
    [" ORDER BY ".toList, " LIMIT ".toList, " OFFSET ".toList, [';']] := rfl

theorem ends_later (clauses : Clauses) : Written.Ends (Clause.row clauses.later) := by
  intro connective
  apply Clause.not_prefix_row
  rw [fronts_later]
  cases connective <;> decide

theorem not_where_later (clauses : Clauses) : ¬ " WHERE ".toList <+: Clause.row clauses.later := by
  apply Clause.not_prefix_row
  rw [fronts_later]
  decide

theorem breaks_later (clauses : Clauses) : Breaks (Clause.row clauses.later) := by
  apply Clause.breaks_row
  rw [fronts_later]
  decide

/-- Behind the table stands a blank or the semicolon. -/
theorem breaks_conditions (clauses : Clauses) :
    Breaks (Written.clauseChars clauses.conditions ++ Clause.row clauses.later) := by
  unfold Written.clauseChars
  cases Written.clause? clauses.conditions with
  | none => exact clauses.breaks_later
  | some text => exact (rfl : Text.isDelimiter ' ' = true)

theorem closes_from (rest : List Char) : Text.Closes (" FROM ".toList ++ rest) := ⟨rfl, by decide⟩

theorem Tame.later (tame : clauses.Tame) :
    ∀ written ∈ clauses.later, ∀ text ∈ written.2, Plain text :=
  List.forall_mem_cons.mpr ⟨tame.order, List.forall_mem_cons.mpr ⟨tame.limit,
    List.forall_mem_singleton.mpr tame.offset⟩⟩

/-- **The clauses can be read off**, but for the first connective, which is not written. -/
theorem same_of_chars_eq (left : clauses.Tame) (right : other.Tame)
    (same : clauses.chars = other.chars) : clauses.Same other := by
  unfold chars at same
  have listed := List.append_cancel_left same
  obtain ⟨columns, behindColumns⟩ := Text.listing_append_unique Text.endsAtDelimiter_plain
    clauses.columns_ne_nil other.columns_ne_nil left.columns right.columns (closes_from _)
    (closes_from _) listed
  obtain ⟨tables, behindTable⟩ := left.table.append_unique right.table clauses.breaks_conditions
    other.breaks_conditions (List.append_cancel_left behindColumns)
  obtain ⟨conditions, behindConditions⟩ := Written.clauseChars_append_unique left.conditions
    right.conditions clauses.ends_later other.ends_later clauses.not_where_later
    other.not_where_later behindTable
  have later : clauses.later = other.later :=
    Clause.row_unique rfl (by rw [fronts_later]; decide) (by rw [fronts_later]; decide)
      left.later right.later behindConditions
  simp only [Clauses.later, List.cons.injEq, Prod.mk.injEq, true_and, and_true] at later
  obtain ⟨order, limit, offset⟩ := later
  exact ⟨columns, tables, conditions, order, limit, offset⟩

/-- What is the same is written alike. -/
theorem Same.chars_eq (same : clauses.Same other) : clauses.chars = other.chars := by
  have clause : Written.clauseChars clauses.conditions = Written.clauseChars other.conditions := by
    rw [Written.clauseChars, Written.clause?_congr same.conditions, Written.clauseChars]
  have later : clauses.later = other.later := by
    rw [Clauses.later, same.order, same.limit, same.offset, Clauses.later]
  delta chars
  rw [same.columns, same.table, clause, later]

end Clauses

/-! ## The statement of a flow -/

namespace Flow

/-- What the calls bring to the statement of drafted columns. An offset that is falsy is left
out. -/
def clauses (columns : List String) (flow : Flow) : Clauses where
  columns := if columns = [] then ["*"] else columns
  table := flow.table.text
  conditions := flow.groups.flattened
  order := flow.order
  limit := flow.page.map fun (rows, _) => rows.bare
  offset := flow.page.bind fun (_, skipped) =>
    skipped.bind fun rows => if rows.Falsy then none else some rows.bare
  columns_ne_nil := by split <;> simp [*]

variable (columns : List String) (flow : Flow)

theorem toList_columnText :
    (Query.columnText columns).toList = listing (flow.clauses columns).columns := by
  unfold Query.columnText clauses
  split
  · rw [Text.listing_singleton]
  · rfl

theorem toList_where : (Query.clause flow.groups.filter.text?).toList =
    Written.clauseChars (flow.clauses columns).conditions := by
  show _ = Written.clauseChars flow.groups.flattened
  rw [Written.clauseChars, ← GroupCalls.written_filter, ← Filter.text?_map_toList]
  cases flow.groups.filter.text? with
  | none => rfl
  | some text => exact String.toList_append

/-- A clause that may be there is a keyword and a text, or nothing. -/
theorem toList_keyword (keyword : String) (text : Option String) :
    (Query.clause (text.map fun text => keyword ++ text)).toList =
      Clause.chars ((" " ++ keyword).toList, text) := by
  cases text with
  | none => rfl
  | some text => simp [Query.clause, Clause.chars]

theorem toList_order : (Query.clause (flow.query columns).orderClause?).toList =
    Clause.chars (" ORDER BY ".toList, (flow.clauses columns).order) :=
  toList_keyword "ORDER BY " flow.order

theorem toList_limit : (Query.clause (flow.query columns).limitClause?).toList =
    Clause.chars (" LIMIT ".toList, (flow.clauses columns).limit) := by
  have text : (flow.query columns).limitClause? =
      (flow.clauses columns).limit.map fun rows => "LIMIT " ++ rows := by
    simp [Query.limitClause?, query, clauses, Option.map_map, Function.comp_def]
  rw [text]
  exact toList_keyword "LIMIT " _

theorem toList_offset : (Query.clause (flow.query columns).offsetClause?).toList =
    Clause.chars (" OFFSET ".toList, (flow.clauses columns).offset) := by
  have text : (flow.query columns).offsetClause? =
      (flow.clauses columns).offset.map fun rows => "OFFSET " ++ rows := by
    rcases page : flow.page with _ | ⟨rows, _ | skipped⟩
    · simp [Query.offsetClause?, query, clauses, page]
    · simp [Query.offsetClause?, query, clauses, page]
    · by_cases truthy : skipped.isTruthy = true <;>
        simp [Query.offsetClause?, query, clauses, page, Scalar.falsy_iff, truthy]
  rw [text]
  exact toList_keyword "OFFSET " _

/-- **The statement is written from what the calls bring.** -/
theorem toList_text : (flow.query columns).text.toList = (flow.clauses columns).chars := by
  have row : Clause.row (flow.clauses columns).later =
      Clause.chars (" ORDER BY ".toList, (flow.clauses columns).order) ++
        (Clause.chars (" LIMIT ".toList, (flow.clauses columns).limit) ++
          (Clause.chars (" OFFSET ".toList, (flow.clauses columns).offset) ++ [';'])) := by
    rw [Clauses.later, Clause.row_cons, Clause.row_cons, Clause.row_cons]
    rfl
  -- opened by its equation, each keyword would be taken apart into characters
  delta Clauses.chars
  rw [row, ← toList_columnText, ← toList_where, ← toList_order, ← toList_limit,
    ← toList_offset]
  delta Query.text
  simp only [String.toList_append, List.append_assoc]
  rfl

end Flow

/-- **A built select statement determines what its calls brought.** The calls of two flows build
statements, and the texts are the same exactly if both bring the same columns, table, conditions,
order, limit and offset, as far as they are written. In particular they have the same clause of
conditions, or none. -/
theorem built?_unambiguous {columns others : List String} {flow other : Flow}
    (left : (flow.clauses columns).Tame) (right : (other.clauses others).Tame) :
    ∃ text otherText, built? columns flow.calls = some text ∧
      built? others other.calls = some otherText ∧
      (text = otherText ↔ (flow.clauses columns).Same (other.clauses others)) ∧
      (text = otherText → flow.groups.filter.text? = other.groups.filter.text?) := by
  have determined : (flow.query columns).text = (other.query others).text ↔
      (flow.clauses columns).Same (other.clauses others) := by
    rw [← String.toList_inj, flow.toList_text, other.toList_text]
    exact ⟨Clauses.same_of_chars_eq left right, Clauses.Same.chars_eq⟩
  refine ⟨_, _, flow.built?_eq columns, other.built?_eq others, determined, fun same => ?_⟩
  rw [Filter.text?_eq_iff, GroupCalls.written_filter, GroupCalls.written_filter]
  exact Written.clause?_congr (determined.mp same).conditions

/-- Keywords for names, and conditions that contain what follows conditions. -/
def keywords (groups : GroupCalls) (rows : Scalar) (skipped : Option Scalar) : Flow where
  table := ⟨"WHERE", by decide⟩
  groups := groups
  order := some "LIMIT"
  page := some (rows, skipped)

/-- The conditions in one group. -/
def keywordGroup : GroupCalls :=
  [(.or, [.raw "a = ' LIMIT 5'", .raw "f() OR (b ORDER BY c)"]), (.and, [])]

/-- The conditions in two groups, with another first connective. -/
def keywordGroups : GroupCalls :=
  [(.and, [.raw "a = ' LIMIT 5'"]), (.or, [.raw "f() OR (b ORDER BY c)"])]

theorem built?_keywords :
    ((keywords keywordGroup (.text "5") (some .null)).clauses []).Tame ∧
      ((keywords keywordGroups (.signed 5) none).clauses ["*"]).Tame ∧
      ((keywords keywordGroups (.signed 6) none).clauses ["*"]).Tame ∧
      built? ["*"] (keywords keywordGroups (.signed 5) none).calls =
        some ("SELECT * FROM WHERE WHERE (a = ' LIMIT 5') OR (f() OR (b ORDER BY c))" ++
          " ORDER BY LIMIT LIMIT 5;") ∧
      built? [] (keywords keywordGroup (.text "5") (some .null)).calls =
        built? ["*"] (keywords keywordGroups (.signed 5) none).calls ∧
      built? [] (keywords keywordGroup (.text "5") (some .null)).calls ≠
        built? ["*"] (keywords keywordGroups (.signed 6) none).calls := by
  have first : ((keywords keywordGroup (.text "5") (some .null)).clauses []).Tame :=
    ⟨by decide, by decide, by decide, by decide, by decide, by decide⟩
  have second : ((keywords keywordGroups (.signed 5) none).clauses ["*"]).Tame :=
    ⟨by decide, by decide, by decide, by decide, by decide, by decide⟩
  have third : ((keywords keywordGroups (.signed 6) none).clauses ["*"]).Tame :=
    ⟨by decide, by decide, by decide, by decide, by decide, by decide⟩
  refine ⟨first, second, third, by decide, ?_, ?_⟩
  · obtain ⟨text, other, built, built', same, -⟩ := built?_unambiguous first second
    rw [built, built', same.mpr ⟨by decide, by decide, by decide, by decide, by decide, by decide⟩]
  · obtain ⟨text, other, built, built', same, -⟩ := built?_unambiguous first third
    rw [built, built']
    intro alike
    exact absurd (same.mp (Option.some.inj alike)).limit (by decide)

end Select

end Statements
