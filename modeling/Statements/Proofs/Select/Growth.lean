import Statements.Proofs.Select.Flow

/-!
# Select statements grow by appending

A select flow keeps its clauses apart and puts them in their order when the statement is built.
The flow can also be described by a pen that never goes back: it starts with the columns, and each
call appends its text behind what is written. The two agree, because no clause can be there before
one that stands in front of it: conditions arrive only while neither order nor limit is there, and
an offset only behind a limit.

`Follows` relates a session to the pen that was given the same calls, and one call preserves it.
So what is built after legal calls is what the pen has written, with the semicolon behind it.
-/

namespace Statements

/-- The scalars for which an offset is left out. -/
inductive Scalar.Falsy : Scalar → Prop where
  | null : Falsy .null
  | no : Falsy (.bool false)
  | signed : Falsy (.signed 0)
  | unsigned : Falsy (.unsigned 0)
  | zero (negative : Bool) : Falsy (.float (.ofRank negative 0))
  | noNumber {x : Binary64} : x.isNaN = true → Falsy (.float x)
  | empty : Falsy (.text "")

theorem Scalar.falsy_iff {scalar : Scalar} : scalar.Falsy ↔ scalar.isTruthy = false := by
  constructor
  · intro falsy
    cases falsy with
    | null | no | signed | unsigned | empty => rfl
    | zero negative => cases negative <;> rfl
    | noNumber noNumber => simp only [isTruthy, noNumber, Bool.not_true, Bool.and_false]
  · intro falsy
    cases scalar with
    | null => exact .null
    | bool b =>
      obtain rfl : b = false := falsy
      exact .no
    | signed n =>
      have zero : n.toInt = 0 := by simpa [isTruthy] using falsy
      obtain rfl : n = 0 := Int64.toInt_inj.mp zero
      exact .signed
    | unsigned n =>
      have zero : n.toNat = 0 := by simpa [isTruthy] using falsy
      obtain rfl : n = 0 := UInt64.toNat_inj.mp zero
      exact .unsigned
    | float x =>
      by_cases noNumber : x.isNaN = true
      · exact .noNumber noNumber
      · have zero : x.rank = 0 := by simpa [isTruthy, noNumber, Binary64.isZero] using falsy
        have sign := Scalar.Falsy.zero x.isNegative
        rwa [← zero, Binary64.ofRank_rank] at sign
    | text s =>
      obtain rfl : s = "" := by simpa [isTruthy] using falsy
      exact .empty

instance : DecidablePred Scalar.Falsy := fun _ => decidable_of_iff _ Scalar.falsy_iff.symm

namespace Select

/-! ## The pen -/

/-- A condition tied to what stands before it. -/
def tied : Connective → Predicate → String
  | .and, predicate => " AND (" ++ predicate.text ++ ")"
  | .or, predicate => " OR (" ++ predicate.text ++ ")"

/-- What a group appends: its first predicate opens the clause if no condition is written yet,
and every other one is tied with the connective of the group. -/
def groupText (filtered : Bool) (connective : Connective) : List Predicate → String
  | [] => ""
  | first :: others =>
    (if filtered then tied connective first else " WHERE (" ++ first.text ++ ")") ++
      String.join (others.map (tied connective))

/-- What a call appends. Calls of other flows append nothing. -/
def appended (filtered : Bool) : Move → String
  | .fromTable table => " FROM " ++ table
  | .addWhere connective group => groupText filtered connective group
  | .orderBy column => " ORDER BY " ++ column
  | .limit rows => " LIMIT " ++ rows.bare
  | .offset rows => if rows.Falsy then "" else " OFFSET " ++ rows.bare
  | .intoTable _ | .bind _ _ | .bindRows _ _ => ""

/-- Whether a call appends a condition. -/
def filters : Move → Bool
  | .addWhere _ group => !group.isEmpty
  | _ => false

/-- The text so far, and whether a condition is in it. -/
structure Pen where
  text : String
  filtered : Bool

namespace Pen

/-- The columns are written, or the star if there are none. -/
def start : List String → Pen
  | [] => ⟨"SELECT *", false⟩
  | column :: columns => ⟨"SELECT " ++ ", ".intercalate (column :: columns), false⟩

def write (pen : Pen) (call : Move) : Pen :=
  ⟨pen.text ++ appended pen.filtered call, pen.filtered || filters call⟩

end Pen

/-- The pen after the calls. -/
def written (columns : List String) (calls : List Move) : Pen :=
  calls.foldl Pen.write (.start columns)

/-! ## The session and the pen -/

/-- The statement without the semicolon. -/
def Query.body (query : Query) : String :=
  "SELECT " ++ columnText query.columns ++ " FROM " ++ query.table.text ++
    clause query.filter.text? ++ clause query.orderClause? ++ clause query.limitClause? ++
    clause query.offsetClause?

/-- The session and the pen have been given the same calls. -/
def Follows : Session → Pen → Prop
  | .draftSelect draft, pen => pen = .start draft.columns
  | .select source, pen => pen = ⟨source.query.body, !source.filter.isEmpty⟩
  | .orderedSelect ordered, pen => pen.text = ordered.query.body
  | .limitedSelect limited, pen => pen.text = limited.query.body
  | .pagedSelect paged, pen => pen.text = paged.query.body
  | _, _ => False

theorem Pen.start_eq (columns : List String) :
    start columns = ⟨"SELECT " ++ Query.columnText columns, false⟩ := by
  cases columns <;> rfl

namespace Query

@[simp]
theorem clause_none : clause none = "" := rfl

@[simp]
theorem clause_orderBy (column : String) :
    clause (some ("ORDER BY " ++ column)) = " ORDER BY " ++ column := by
  rw [clause, ← String.append_assoc]
  rfl

@[simp]
theorem clause_limit (rows : String) : clause (some ("LIMIT " ++ rows)) = " LIMIT " ++ rows := by
  rw [clause, ← String.append_assoc]
  rfl

@[simp]
theorem clause_offset (rows : String) :
    clause (some ("OFFSET " ++ rows)) = " OFFSET " ++ rows := by
  rw [clause, ← String.append_assoc]
  rfl

end Query

theorem joined_eq_tied (connective : Connective) (predicate : Predicate) :
    Condition.joined ⟨connective, predicate⟩ = tied connective predicate := by
  have chars : (Condition.joined ⟨connective, predicate⟩).toList =
      (tied connective predicate).toList := by
    simp only [Condition.joined, Condition.text, String.toList_append]
    cases connective <;> simp only [tied, String.toList_append] <;> rfl
  exact String.toList_injective chars

/-- A group makes the clause longer by the text that it appends. -/
theorem clause_push (filter : Filter) (connective : Connective) (group : List Predicate) :
    Query.clause (filter.push connective group).text? =
      Query.clause filter.text? ++ groupText (!filter.isEmpty) connective group := by
  have joins : ∀ others : List Predicate,
      String.join ((others.map fun predicate => ⟨connective, predicate⟩).map Condition.joined) =
        String.join (others.map (tied connective)) := by
    intro others
    rw [List.map_map]
    congr 1
    exact List.map_congr_left fun predicate _ => joined_eq_tied connective predicate
  obtain ⟨conditions⟩ := filter
  cases conditions with
  | nil =>
    cases group with
    | nil => rfl
    | cons first others =>
      simp only [Filter.push, Filter.text?, Filter.isEmpty, List.nil_append, List.map_cons, joins,
        Query.clause, groupText, Condition.text, List.isEmpty_nil, Bool.not_true]
      simp [← String.append_assoc]
  | cons condition conditions =>
    cases group with
    | nil => simp [Filter.push, groupText]
    | cons first others =>
      simp only [Filter.push, Filter.text?, Filter.isEmpty, List.cons_append, List.map_append,
        List.map_cons, String.join_append, String.join_cons, joins, joined_eq_tied, Query.clause,
        groupText, List.isEmpty_cons, Bool.not_false, if_true, String.append_assoc]

theorem isEmpty_push (filter : Filter) (connective : Connective) (group : List Predicate) :
    (!(filter.push connective group).isEmpty) = (!filter.isEmpty || !group.isEmpty) := by
  cases group <;> simp [Filter.push, Filter.isEmpty]

/-! ### What each stage adds to the statement

No stage has a clause that stands behind the one it adds, so the statement is always the one of the
stage before with something behind it. -/

theorem Source.body_query (source : Source) :
    source.query.body = "SELECT " ++ Query.columnText source.columns ++ " FROM " ++
      source.table.text ++ Query.clause source.filter.text? := by
  simp [Query.body, Source.query, Query.orderClause?, Query.limitClause?, Query.offsetClause?]

theorem Source.body_push (source : Source) (connective : Connective) (group : List Predicate) :
    (Source.query { source with filter := source.filter.push connective group }).body =
      source.query.body ++ groupText (!source.filter.isEmpty) connective group := by
  simp only [body_query, clause_push, String.append_assoc]

theorem Source.body_orderBy (source : Source) (column : String) :
    (source.orderBy column).query.body = source.query.body ++ (" ORDER BY " ++ column) := by
  simp [Query.body, Source.orderBy, Ordered.query, Source.query,
    Query.orderClause?, Query.limitClause?, Query.offsetClause?]

theorem Source.body_limit (source : Source) (rows : Scalar) :
    (source.limit rows).query.body = source.query.body ++ (" LIMIT " ++ rows.bare) := by
  simp [Query.body, Source.limit, Limited.query, Source.query,
    Query.orderClause?, Query.limitClause?, Query.offsetClause?]

theorem Ordered.body_limit (ordered : Ordered) (rows : Scalar) :
    (ordered.limit rows).query.body = ordered.query.body ++ (" LIMIT " ++ rows.bare) := by
  simp [Query.body, Ordered.limit, Ordered.query, Limited.query, Source.query,
    Query.orderClause?, Query.limitClause?, Query.offsetClause?]

theorem Limited.body_offset (limited : Limited) (rows : Scalar) :
    (limited.offset rows).query.body =
      limited.query.body ++ if rows.Falsy then "" else " OFFSET " ++ rows.bare := by
  simp only [Query.body, Limited.offset, Limited.query, Paged.query, Source.query,
    Query.orderClause?, Query.limitClause?, Query.offsetClause?, Option.filter_some,
    Scalar.falsy_iff]
  cases rows.isTruthy <;> simp

/-- **One call keeps the session and the pen together.** -/
theorem Follows.move {session next : Session} {pen : Pen} {call : Move}
    (follows : Follows session pen) (moved : session.move call = .ok next) :
    Follows next (pen.write call) := by
  cases session with
  | draftSelect draft =>
    obtain ⟨columns⟩ := draft
    obtain ⟨table, rfl, rfl⟩ := Draft.move_eq_ok moved
    obtain rfl := follows
    simp [Follows, Pen.write, Pen.start_eq, appended, filters, Query.body, Source.query,
      Query.orderClause?, Query.limitClause?, Query.offsetClause?, Filter.empty, Filter.text?,
      Filter.isEmpty, String.append_assoc]
  | select source =>
    obtain rfl := follows
    cases call with
    | addWhere connective group =>
      have pushed : next = .select
          { source with filter := source.filter.push connective group } := by
        cases connective <;> exact (Except.ok.inj moved).symm
      subst pushed
      simp only [Follows, Pen.write, appended, filters, Source.body_push, isEmpty_push]
    | orderBy column =>
      obtain rfl := Except.ok.inj moved
      exact (source.body_orderBy column).symm
    | limit rows =>
      obtain rfl := Except.ok.inj moved
      exact (source.body_limit rows).symm
    | fromTable | intoTable | offset | bind | bindRows => cases moved
  | orderedSelect ordered =>
    cases call with
    | limit rows =>
      obtain rfl := Except.ok.inj moved
      show pen.text ++ _ = (ordered.limit rows).query.body
      rw [ordered.body_limit, show pen.text = _ from follows, appended]
    | fromTable | intoTable | addWhere | orderBy | offset | bind | bindRows =>
      cases moved
  | limitedSelect limited =>
    cases call with
    | offset rows =>
      obtain rfl := Except.ok.inj moved
      show pen.text ++ _ = (limited.offset rows).query.body
      rw [limited.body_offset, show pen.text = _ from follows, appended]
    | fromTable | intoTable | addWhere | orderBy | limit | bind | bindRows =>
      cases moved
  | pagedSelect paged => cases call <;> cases moved
  | draftUpsert | upsert | draftBulkUpsert | bulkUpsert | parameters => exact follows.elim

/-- A run keeps the session and the pen together. -/
theorem follows_run {columns : List String} {calls : List Move} {session : Session}
    (ran : run columns calls = .ok session) : Follows session (written columns calls) := by
  have onward : ∀ (start : Session) (pen : Pen), Follows start pen →
      calls.foldlM Session.move start = .ok session →
        Follows session (calls.foldl Pen.write pen) := by
    clear ran
    induction calls with
    | nil =>
      intro start pen follows ran
      obtain rfl := Except.ok.inj ran
      exact follows
    | cons call calls ih =>
      intro start pen follows ran
      obtain ⟨next, moved, rest⟩ := foldlM_cons_eq_ok.mp ran
      exact ih next (pen.write call) (follows.move moved) rest
  exact onward (.draftSelect ⟨columns⟩) (.start columns) rfl ran

/-- What is built is what the pen has written. -/
theorem Follows.text {session : Session} {pen : Pen} {statement : Statement}
    (follows : Follows session pen) (built : session.statement? = some statement) :
    statement.text = pen.text ++ ";" := by
  cases session with
  | draftSelect => exact nomatch built
  | select source =>
    obtain rfl := Option.some.inj built
    obtain rfl := follows
    rfl
  | orderedSelect ordered =>
    obtain rfl := Option.some.inj built
    rw [show pen.text = _ from follows]
    rfl
  | limitedSelect limited =>
    obtain rfl := Option.some.inj built
    rw [show pen.text = _ from follows]
    rfl
  | pagedSelect paged =>
    obtain rfl := Option.some.inj built
    rw [show pen.text = _ from follows]
    rfl
  | draftUpsert | upsert | draftBulkUpsert | bulkUpsert | parameters => exact follows.elim

theorem built?_calls (columns : List String) (flow : Flow) :
    built? columns flow.calls = some ((written columns flow.calls).text ++ ";") := by
  have follows := follows_run (run_calls columns flow)
  have text : (flow.query columns).text = _ := follows.text (flow.statement?_session columns)
  rw [flow.built?_eq, text]

/-- **What is built grows by appending.** After calls, and after any of the first of them but
none, a select flow builds what the pen has written, if the calls are those of a flow. All other
calls are refused. -/
theorem built?_eq_written (columns : List String) (calls : List Move) :
    (∀ text, built? columns calls = some text ↔
      Legal calls ∧ text = (written columns calls).text ++ ";") ∧
    (Legal calls → ∀ front, front <+: calls → front ≠ [] →
      built? columns front = some ((written columns front).text ++ ";")) ∧
    (calls ≠ [] → ¬ Legal calls → ∃ refusal, run columns calls = .error refusal) := by
  refine ⟨fun text => ⟨?_, ?_⟩, ?_, ?_⟩
  · intro built
    cases ran : run columns calls with
    | error refusal =>
      rw [built?, ran] at built
      cases built
    | ok session =>
      obtain ⟨rfl, rfl⟩ | ⟨flow, rfl, rfl⟩ := run_eq_ok ran
      · cases built
      · rw [built?_calls] at built
        exact ⟨⟨flow, rfl⟩, (Option.some.inj built).symm⟩
  · rintro ⟨⟨flow, rfl⟩, rfl⟩
    exact built?_calls columns flow
  · rintro ⟨flow, rfl⟩ front ⟨back, whole⟩ nonempty
    have ran := run_calls columns flow
    rw [← whole] at ran
    obtain ⟨middle, before, -⟩ := run_append_eq_ok.mp ran
    obtain ⟨rfl, -⟩ | ⟨shorter, rfl, -⟩ := run_eq_ok before
    · exact absurd rfl nonempty
    · exact built?_calls columns shorter
  · intro nonempty illegal
    cases ran : run columns calls with
    | error refusal => exact ⟨refusal, rfl⟩
    | ok session =>
      obtain ⟨rfl, -⟩ | ⟨flow, whole, -⟩ := run_eq_ok ran
      · exact absurd rfl nonempty
      · exact absurd ⟨flow, whole⟩ illegal

/-- Groups with nothing in them before, between and after conditions, and an offset that is left
out. -/
def paging : Flow where
  table := ⟨"t", by decide⟩
  groups := [(.or, []), (.or, [.raw "a", .raw "b"]), (.or, []), (.and, [.raw "c"])]
  order := some "n"
  page := some (.signed 5, some (.signed 0))

theorem built?_paging :
    Legal paging.calls ∧
      built? ["id", "n"] paging.calls =
        some "SELECT id, n FROM t WHERE (a) OR (b) AND (c) ORDER BY n LIMIT 5;" ∧
      built? ["id", "n"] (paging.calls.take 3) = some "SELECT id, n FROM t WHERE (a) OR (b);" ∧
      ∃ refusal, run ["id", "n"] [.fromTable "t", .orderBy "n", .addWhere .and []] =
        .error refusal := by
  have legal : Legal paging.calls := ⟨paging, rfl⟩
  obtain ⟨texts, fronts, -⟩ := built?_eq_written ["id", "n"] paging.calls
  refine ⟨legal, (texts _).mpr ⟨legal, by decide⟩, ?_, ?_⟩
  · exact fronts legal _ (List.take_prefix 3 _) (List.cons_ne_nil _ _)
  · refine (built?_eq_written ["id", "n"] _).2.2 (List.cons_ne_nil _ _) ?_
    rintro ⟨flow, calls⟩
    have ran := run_calls ["id", "n"] flow
    rw [calls] at ran
    exact nomatch ran

end Select

end Statements
