import Mathlib.Data.List.Forall2
import Statements.Execution

/-!
# What reaches the backend and the log

Statements are built and handed over one call after another: each call takes any statement of the
three flows and any parameters, and the backend may answer by all that it was handed before. A run
is told call by call. A call that builds answers the text and leaves one trace of it. A call that
executes leaves the same trace, announces the text with the number of bound parameters, hands text
and parameters over once, answers what the backend answers, and warns if that is a failure.

**The law** (`performAll_accounted`): every call gives this account, and nothing else happens. So
the log can be read without the calls (`Log`): the announcements are the requests that the backend
was handed, in their order, and the warnings are its failures.

A request stands in the journal because the run wrote it there. That the backend was handed it, and
nothing else, is what its last state shows: it is the state after answering the requests of the
calls one after another, whatever the backend makes of its state.
-/

namespace Statements

variable {σ : Type}

/-- A call of a statement. -/
inductive Call where
  | build (statement : Statement)
  | execute (statement : Statement) (parameters : Option Parameters)

/-- What a call answers. -/
inductive Reply where
  | built (text : String)
  | executed (outcome : Outcome)

namespace Call

def statement : Call → Statement
  | .build statement => statement
  | .execute statement _ => statement

/-- What the call hands to the backend. -/
def request? : Call → Option Request
  | .build _ => none
  | .execute statement parameters => some ⟨statement.text, parameters⟩

def perform (backend : Backend σ) : Call → StateM (World σ) Reply
  | .build statement => do return .built (← statement.build)
  | .execute statement parameters => do
    return .executed (← statement.execute backend parameters)

end Call

/-- The answer of the backend, if it was asked. -/
def Reply.outcome? : Reply → Option Outcome
  | .built _ => none
  | .executed outcome => some outcome

/-- The number of bound entries, repetitions counted, and zero without parameters. -/
def Request.bound (request : Request) : Nat :=
  match request.parameters with
  | none => 0
  | some parameters => parameters.entries.length

/-- The answers to requests one after another, and the state after them. -/
def Backend.answers (backend : Backend σ) : σ → List Request → List Outcome × σ
  | state, [] => ([], state)
  | state, request :: requests =>
    let (outcome, next) := backend.answer state request
    let (outcomes, last) := backend.answers next requests
    (outcome :: outcomes, last)

/-- Calls one after another. -/
def performAll (backend : Backend σ) (calls : List Call) : StateM (World σ) (List Reply) :=
  calls.mapM (Call.perform backend)

/-- What a call answers and what it leaves in the journal. -/
structure Account where
  reply : Reply
  entries : List Entry

/-- What an answer of the backend adds to the journal. -/
def Outcome.warning (text : String) : Outcome → List Entry
  | .failure code => [.logged (.failed code text)]
  | _ => []

/-- What handing a statement over leaves in the journal, the answer known. -/
def Statement.handing (statement : Statement) (parameters : Option Parameters)
    (outcome : Outcome) : List Entry :=
  [ .logged (.built statement.kind statement.text),
    .logged (.executing statement.text (Request.bound ⟨statement.text, parameters⟩)),
    .sent ⟨statement.text, parameters⟩ ] ++ outcome.warning statement.text

/-- The account that a call has to give. What the backend answers is left open. -/
inductive Call.Accounted : Call → Account → Prop
  | build (statement : Statement) :
    Accounted (.build statement)
      ⟨.built statement.text, [.logged (.built statement.kind statement.text)]⟩
  | execute (statement : Statement) (parameters : Option Parameters) (outcome : Outcome) :
    Accounted (.execute statement parameters)
      ⟨.executed outcome, statement.handing parameters outcome⟩

/-! ## One call -/

/-- The announced number is the one that the parameters have. -/
theorem Request.bound_mk (text : String) (parameters : Option Parameters) :
    bound ⟨text, parameters⟩ = parameters.elim 0 Parameters.size := by
  cases parameters <;> rfl

theorem Statement.run_build (statement : Statement) (world : World σ) :
    statement.build.run world = (statement.text,
      ⟨world.backend, world.journal ++ [.logged (.built statement.kind statement.text)]⟩) := rfl

theorem Statement.run_execute (statement : Statement) (backend : Backend σ)
    (parameters : Option Parameters) (world : World σ) {outcome : Outcome} {next : σ}
    (answered : backend.answer world.backend ⟨statement.text, parameters⟩ = (outcome, next)) :
    (statement.execute backend parameters).run world =
      (outcome, ⟨next, world.journal ++ statement.handing parameters outcome⟩) := by
  cases outcome with
  | success | rows | failure =>
    simp [execute, build, World.record, World.send, handing, Outcome.warning, Request.bound_mk,
      answered]
    rfl

theorem Call.perform_accounted (backend : Backend σ) (call : Call) (world : World σ) :
    ∃ account, call.Accounted account ∧
      account.reply.outcome?.toList = (backend.answers world.backend call.request?.toList).1 ∧
      (call.perform backend).run world = (account.reply,
        ⟨(backend.answers world.backend call.request?.toList).2,
          world.journal ++ account.entries⟩) := by
  cases call with
  | build statement =>
    refine ⟨_, .build statement, rfl, ?_⟩
    rw [Call.perform, StateT.run_bind, statement.run_build]
    rfl
  | execute statement parameters =>
    cases answered : backend.answer world.backend ⟨statement.text, parameters⟩ with
    | mk outcome next =>
      have ran := statement.run_execute backend parameters world answered
      refine ⟨_, .execute statement parameters outcome, ?_, ?_⟩
      · simp [Reply.outcome?, Call.request?, Backend.answers, answered]
      · rw [Call.perform, StateT.run_bind, ran]
        simp [Call.request?, Backend.answers, answered]
        rfl

/-! ## A run -/

theorem Backend.answers_append (backend : Backend σ) (state : σ) (front back : List Request) :
    backend.answers state (front ++ back) =
      let (outcomes, next) := backend.answers state front
      let (others, last) := backend.answers next back
      (outcomes ++ others, last) := by
  induction front generalizing state with
  | nil => rfl
  | cons request front ih => simp only [List.cons_append, answers, ih]

/-- The requests of calls, in their order. -/
def requests (calls : List Call) : List Request := calls.filterMap Call.request?

theorem requests_cons (call : Call) (calls : List Call) :
    requests (call :: calls) = call.request?.toList ++ requests calls := by
  cases call <;> rfl

/-- The outcomes that accounts tell, in their order. -/
def outcomes (accounts : List Account) : List Outcome :=
  accounts.filterMap fun account => account.reply.outcome?

theorem outcomes_cons (account : Account) (accounts : List Account) :
    outcomes (account :: accounts) = account.reply.outcome?.toList ++ outcomes accounts := by
  cases told : account.reply.outcome? <;> simp [outcomes, told]

theorem performAll_cons (backend : Backend σ) (call : Call) (calls : List Call)
    {world next last : World σ} {reply : Reply} {replies : List Reply}
    (first : (call.perform backend).run world = (reply, next))
    (rest : (performAll backend calls).run next = (replies, last)) :
    (performAll backend (call :: calls)).run world = (reply :: replies, last) := by
  rw [performAll, List.mapM_cons, StateT.run_bind, first]
  show ((performAll backend calls) >>= fun replies => pure (reply :: replies)).run next = _
  rw [StateT.run_bind, rest]
  rfl

theorem performAll_eq (backend : Backend σ) (calls : List Call) (world : World σ) :
    ∃ accounts, List.Forall₂ Call.Accounted calls accounts ∧
      outcomes accounts = (backend.answers world.backend (requests calls)).1 ∧
      (performAll backend calls).run world = (accounts.map Account.reply,
        ⟨(backend.answers world.backend (requests calls)).2,
          world.journal ++ accounts.flatMap Account.entries⟩) := by
  induction calls generalizing world with
  | nil =>
    refine ⟨[], .nil, rfl, ?_⟩
    simp [performAll, requests, Backend.answers]
    rfl
  | cons call calls ih =>
    obtain ⟨account, accounted, told, ran⟩ := call.perform_accounted backend world
    obtain ⟨accounts, others, toldOthers, rest⟩ := ih
      ⟨(backend.answers world.backend call.request?.toList).2, world.journal ++ account.entries⟩
    refine ⟨account :: accounts, .cons accounted others, ?_, ?_⟩
    · rw [requests_cons, outcomes_cons, Backend.answers_append, told, toldOthers]
    · rw [performAll_cons backend call calls ran rest, requests_cons, Backend.answers_append,
        List.map_cons, List.flatMap_cons, List.append_assoc]

/-! ## The log -/

/-- The events of a journal. -/
def events (journal : List Entry) : List Event := journal.filterMap Entry.event?

/-- The fields of the events of one level. -/
def shown (level : Level) (journal : List Entry) : List (List (String × String)) :=
  ((events journal).filter (·.level = level)).map Event.fields

theorem shown_append (level : Level) (front back : List Entry) :
    shown level (front ++ back) = shown level front ++ shown level back := by
  simp [shown, events]

/-- A request as it is announced. -/
def Request.announcement (request : Request) : List (String × String) :=
  [("sql", request.text), ("params", toString request.bound)]

/-- A failure of a request as it is warned of. -/
def Request.complaint? (request : Request) (outcome : Outcome) : Option (List (String × String)) :=
  outcome.failureCode?.map fun code => [("code", toString code.toNat), ("sql", request.text)]

/-- What the journal of calls shows. -/
structure Log (calls : List Call) (outcomes : List Outcome) (journal : List Entry) : Prop where
  sent : journal.filterMap Entry.request? = requests calls
  traces : shown .trace journal = calls.map fun call => [("sql", call.statement.text)]
  announcements : shown .debug journal = (requests calls).map Request.announcement
  warnings : shown .warn journal =
    ((requests calls).zip outcomes).filterMap fun handed => handed.1.complaint? handed.2

theorem Log.of_accounted {calls : List Call} {accounts : List Account}
    (accounted : List.Forall₂ Call.Accounted calls accounts) :
    Log calls (outcomes accounts) (accounts.flatMap Account.entries) := by
  induction accounted with
  | nil => exact ⟨rfl, rfl, rfl, rfl⟩
  | @cons call account calls accounts here later ih =>
    obtain ⟨sent, traces, announcements, warnings⟩ := ih
    cases here with
    | build statement =>
      refine ⟨?_, ?_, ?_, ?_⟩
      · rw [List.flatMap_cons, List.filterMap_append, sent]
        rfl
      · rw [List.flatMap_cons, shown_append, traces]
        rfl
      · rw [List.flatMap_cons, shown_append, announcements]
        rfl
      · rw [List.flatMap_cons, shown_append, warnings]
        rfl
    | execute statement parameters outcome =>
      refine ⟨?_, ?_, ?_, ?_⟩
      · rw [List.flatMap_cons, List.filterMap_append, sent]
        cases outcome <;> rfl
      · rw [List.flatMap_cons, shown_append, traces]
        cases outcome <;> rfl
      · rw [List.flatMap_cons, shown_append, announcements]
        cases outcome <;> rfl
      · rw [List.flatMap_cons, shown_append, warnings]
        cases outcome <;> rfl

/-- **Every call gives its account, and the log is the requests and their failures.** The backend
is handed the requests of the calls one after another and nothing else, its answers are the
replies, and the journal grows by what the calls leave. -/
theorem performAll_accounted (backend : Backend σ) (calls : List Call) (world : World σ) :
    ∃ accounts,
      (performAll backend calls).run world = (accounts.map Account.reply,
        ⟨(backend.answers world.backend (requests calls)).2,
          world.journal ++ accounts.flatMap Account.entries⟩) ∧
      List.Forall₂ Call.Accounted calls accounts ∧
      outcomes accounts = (backend.answers world.backend (requests calls)).1 ∧
      Log calls (outcomes accounts) (accounts.flatMap Account.entries) := by
  obtain ⟨accounts, accounted, told, ran⟩ := performAll_eq backend calls world
  exact ⟨accounts, ran, accounted, told, .of_accounted accounted⟩

end Statements
