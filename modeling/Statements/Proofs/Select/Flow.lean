import Mathlib.Data.List.Induction
import Statements.Proofs.Except
import Statements.Proofs.Filter.Unambiguous
import Statements.Proofs.TableName
import Statements.Session

/-!
# The calls of a select flow

Every stage of a select flow offers the calls that are legal from it, so which calls run in which
order is decided one call at a time. `Flow` says it at once: a table, groups of conditions, then
perhaps an order, then perhaps a limit, and with a limit perhaps an offset. The calls of a flow run
(`run_calls`), and no other calls do (`run_eq_ok`), because a call that comes too late finds a
stage that does not offer it.

A session that was reached in this way is given by its flow, and so is the statement that it
builds.
-/

namespace Statements

namespace Select

/-- The session that the calls make of drafted columns, one after another. -/
def run (columns : List String) (calls : List Move) : Except Refusal Session :=
  calls.foldlM Session.move (.draftSelect ⟨columns⟩)

/-- The text that is built after the calls, if they lead to a session that can be built. -/
def built? (columns : List String) (calls : List Move) : Option String :=
  match run columns calls with
  | .ok session => session.statement?.map Statement.text
  | .error _ => none

/-- What the calls of a select flow say. An offset stands with the limit that it needs. -/
structure Flow where
  table : TableName
  groups : GroupCalls
  order : Option String
  page : Option (Scalar × Option Scalar)

namespace Flow

def pageCalls : Option (Scalar × Option Scalar) → List Move
  | none => []
  | some (rows, none) => [.limit rows]
  | some (rows, some skipped) => [.limit rows, .offset skipped]

/-- The calls in the order in which they are made. -/
def calls (flow : Flow) : List Move :=
  .fromTable flow.table.text :: (flow.groups.map (fun group => .addWhere group.1 group.2) ++
    flow.order.toList.map .orderBy ++ pageCalls flow.page)

/-- The session after the calls. -/
def session (columns : List String) (flow : Flow) : Session :=
  let source : Source := ⟨columns, flow.table, flow.groups.filter⟩
  match flow.order, flow.page with
  | none, none => .select source
  | some column, none => .orderedSelect ⟨source, column⟩
  | order, some (rows, none) => .limitedSelect ⟨source, order, rows⟩
  | order, some (rows, some skipped) => .pagedSelect ⟨⟨source, order, rows⟩, skipped⟩

/-- The clauses of the statement that can be built then. -/
def query (columns : List String) (flow : Flow) : Query :=
  ⟨columns, flow.table, flow.groups.filter, flow.order, flow.page.map Prod.fst,
    flow.page.bind Prod.snd⟩

theorem statement?_session (columns : List String) (flow : Flow) :
    (flow.session columns).statement? = some (.select (flow.query columns)) := by
  obtain ⟨table, groups, order, page⟩ := flow
  cases order <;> rcases page with _ | ⟨rows, _ | skipped⟩ <;> rfl

end Flow

/-- The calls are those of a flow. -/
def Legal (calls : List Move) : Prop := ∃ flow : Flow, flow.calls = calls

theorem run_append {columns : List String} {front back : List Move} :
    run columns (front ++ back) = (run columns front).bind (back.foldlM Session.move) :=
  List.foldlM_append

/-- A run that succeeds is made of a first part and the rest. -/
theorem run_append_eq_ok {columns : List String} {front back : List Move} {session : Session} :
    run columns (front ++ back) = .ok session ↔
      ∃ middle, run columns front = .ok middle ∧
        back.foldlM Session.move middle = .ok session := by
  rw [run_append, bind_eq_ok]

theorem foldlM_cons_eq_ok {session last : Session} {call : Move} {calls : List Move} :
    (call :: calls).foldlM Session.move session = .ok last ↔
      ∃ next, session.move call = .ok next ∧ calls.foldlM Session.move next = .ok last := by
  rw [List.foldlM_cons]
  exact bind_eq_ok

theorem Draft.fromTable_text (draft : Draft) (table : TableName) :
    draft.fromTable table.text = .ok ⟨draft.columns, table, .empty⟩ := by
  rw [Draft.fromTable, table.ofText_text]
  rfl

/-- Groups stay with the stage that takes conditions. -/
theorem foldlM_addWhere (groups : GroupCalls) (source : Source) :
    (groups.map fun group => Move.addWhere group.1 group.2).foldlM Session.move
        (.select source) =
      .ok (.select { source with
        filter := groups.foldl (fun filter group => filter.push group.1 group.2)
          source.filter }) := by
  induction groups generalizing source with
  | nil => rfl
  | cons group groups ih =>
    obtain ⟨connective, predicates⟩ := group
    cases connective with
    | and => exact ih (source.andWhere predicates)
    | or => exact ih (source.orWhere predicates)

/-- The calls of a flow run. -/
theorem run_calls (columns : List String) (flow : Flow) :
    run columns flow.calls = .ok (flow.session columns) := by
  obtain ⟨table, groups, order, page⟩ := flow
  have opened : Session.move (.draftSelect ⟨columns⟩) (.fromTable table.text) =
      .ok (.select ⟨columns, table, .empty⟩) := by
    rw [Session.move, Draft.fromTable_text]
    rfl
  have filtered : run columns (.fromTable table.text ::
      groups.map fun group => .addWhere group.1 group.2) =
        .ok (.select ⟨columns, table, groups.filter⟩) := by
    rw [run, List.foldlM_cons, opened]
    exact foldlM_addWhere groups _
  rw [Flow.calls, List.append_assoc, ← List.cons_append, run_append, filtered]
  cases order with
  | none =>
    rcases page with _ | ⟨rows, _ | skipped⟩ <;> rfl
  | some column =>
    rcases page with _ | ⟨rows, _ | skipped⟩ <;> rfl

/-- What is built after the calls is the text of the clauses that they gave. -/
theorem Flow.built?_eq (columns : List String) (flow : Flow) :
    built? columns flow.calls = some (flow.query columns).text := by
  rw [built?, run_calls]
  show (flow.session columns).statement?.map Statement.text = _
  rw [flow.statement?_session]
  rfl

/-- What one more call makes of the session after a flow is the session after a longer flow. -/
theorem Flow.move_session {columns : List String} {flow : Flow} {call : Move} {next : Session}
    (moved : (flow.session columns).move call = .ok next) :
    ∃ longer : Flow, longer.calls = flow.calls ++ [call] ∧ longer.session columns = next := by
  obtain ⟨table, groups, order, page⟩ := flow
  rcases page with _ | ⟨rows, _ | skipped⟩
  · cases order with
    | none =>
      cases call with
      | addWhere connective group =>
        refine ⟨⟨table, groups ++ [(connective, group)], none, none⟩, ?_, ?_⟩
        · simp [calls, pageCalls]
        · cases connective <;>
          · obtain rfl := Except.ok.inj moved
            simp [session, GroupCalls.filter, Source.andWhere, Source.orWhere]
      | orderBy column =>
        refine ⟨⟨table, groups, some column, none⟩, ?_, Except.ok.inj moved⟩
        simp [calls, pageCalls]
      | limit rows =>
        refine ⟨⟨table, groups, none, some (rows, none)⟩, ?_, Except.ok.inj moved⟩
        simp [calls, pageCalls]
      | fromTable | intoTable | offset | bind | bindRows => cases moved
    | some column =>
      cases call with
      | limit rows =>
        refine ⟨⟨table, groups, some column, some (rows, none)⟩, ?_, Except.ok.inj moved⟩
        simp [calls, pageCalls]
      | fromTable | intoTable | addWhere | orderBy | offset | bind | bindRows =>
        cases moved
  · cases call with
    | offset skipped =>
      refine ⟨⟨table, groups, order, some (rows, some skipped)⟩, ?_, ?_⟩
      · simp [calls, pageCalls]
      · cases order <;> exact Except.ok.inj moved
    | fromTable | intoTable | addWhere | orderBy | limit | bind | bindRows =>
      cases order <;> cases moved
  · cases order <;> cases call <;> cases moved

/-- Nothing but a table can be named for drafted columns, and any text but the empty one names a
table. -/
theorem Draft.move_eq_ok {columns : List String} {call : Move} {next : Session}
    (moved : Session.move (.draftSelect ⟨columns⟩) call = .ok next) :
    ∃ table : TableName, call = .fromTable table.text ∧
      next = .select ⟨columns, table, .empty⟩ := by
  cases call with
  | fromTable text =>
    rw [Session.move, Draft.fromTable] at moved
    cases named : TableName.ofText text with
    | error problem =>
      rw [named] at moved
      cases moved
    | ok table =>
      rw [named] at moved
      obtain rfl := TableName.text_of_ofText named
      exact ⟨table, rfl, (Except.ok.inj moved).symm⟩
  | intoTable | addWhere | orderBy | limit | offset | bind | bindRows => cases moved

/-- **The calls that run** are none at all, or those of a flow. -/
theorem run_eq_ok {columns : List String} {calls : List Move} {session : Session}
    (ran : run columns calls = .ok session) :
    (calls = [] ∧ session = .draftSelect ⟨columns⟩) ∨
      ∃ flow : Flow, flow.calls = calls ∧ flow.session columns = session := by
  induction calls using List.reverseRecOn generalizing session with
  | nil => exact .inl ⟨rfl, (Except.ok.inj ran).symm⟩
  | append_singleton calls call ih =>
    right
    obtain ⟨middle, before, rest⟩ := run_append_eq_ok.mp ran
    obtain ⟨next, after, done⟩ := foldlM_cons_eq_ok.mp rest
    obtain rfl := Except.ok.inj done
    obtain ⟨rfl, rfl⟩ | ⟨flow, rfl, rfl⟩ := ih before
    · obtain ⟨table, rfl, rfl⟩ := Draft.move_eq_ok after
      exact ⟨⟨table, [], none, none⟩, rfl, rfl⟩
    · exact flow.move_session after

end Select

end Statements
