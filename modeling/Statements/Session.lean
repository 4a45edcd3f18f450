import Statements.Execution

/-!
# Programs over named sessions

A program keeps sessions in named slots. A session is one stage of a flow, or a bag of parameters.
A step starts a session, moves a copy of one on and stores it, or reads one. A step that is refused
stores nothing, and neither does one that only reads, so sessions meet only through the names of
their slots.
-/

namespace Statements

/-! ## Arguments that may come as text -/

/-- A row, or the JSON text of one. -/
inductive RowSource where
  | given (row : Row)
  | json (text : String)

def RowSource.row : RowSource → Except Error Row
  | .given row => .ok row
  | .json text => Row.ofJsonText text

/-- A parameter whose rows may come as text. -/
inductive ParameterSource where
  | value (scalar : Scalar)
  | rows (rows : List RowSource)

def ParameterSource.parameter : ParameterSource → Except Error Parameter
  | .value scalar => .ok (.value scalar)
  | .rows sources => (sources.mapM RowSource.row).map .rows

/-- An outcome whose rows may come as text. -/
inductive OutcomeSource where
  | success
  | rows (rows : List RowSource)
  | failure (code : UInt16)

def OutcomeSource.outcome : OutcomeSource → Except Error Outcome
  | .success => .ok .success
  | .rows sources => (sources.mapM RowSource.row).map .rows
  | .failure code => .ok (.failure code)

/-! ## Sessions -/

/-- A stage of a flow, or bound parameters. -/
inductive Session where
  | draftSelect (draft : Select.Draft)
  | select (source : Select.Source)
  | orderedSelect (ordered : Select.Ordered)
  | limitedSelect (limited : Select.Limited)
  | pagedSelect (paged : Select.Paged)
  | draftUpsert (draft : Upsert.Draft)
  | upsert (ready : Upsert.Ready)
  | draftBulkUpsert (draft : BulkUpsert.Draft)
  | bulkUpsert (ready : BulkUpsert.Ready)
  | parameters (bound : Parameters)

/-- The stage of a session without its content. -/
inductive Stage where
  | draftSelect
  | select
  | orderedSelect
  | limitedSelect
  | pagedSelect
  | draftUpsert
  | upsert
  | draftBulkUpsert
  | bulkUpsert
  | parameters
deriving DecidableEq

namespace Session

def stage : Session → Stage
  | .draftSelect _ => .draftSelect
  | .select _ => .select
  | .orderedSelect _ => .orderedSelect
  | .limitedSelect _ => .limitedSelect
  | .pagedSelect _ => .pagedSelect
  | .draftUpsert _ => .draftUpsert
  | .upsert _ => .upsert
  | .draftBulkUpsert _ => .draftBulkUpsert
  | .bulkUpsert _ => .bulkUpsert
  | .parameters _ => .parameters

/-- The statement of a session that can be built. -/
def statement? : Session → Option Statement
  | .select source => some (.select source.query)
  | .orderedSelect ordered => some (.select ordered.query)
  | .limitedSelect limited => some (.select limited.query)
  | .pagedSelect paged => some (.select paged.query)
  | .upsert ready => some (.upsert ready)
  | .bulkUpsert ready => some (.bulkUpsert ready)
  | _ => none

end Session

/-- Why a step was refused. -/
inductive Refusal where
  /-- Nothing is stored under the name. -/
  | noSlot
  /-- The session is at a stage that does not offer the call. -/
  | noCall (stage : Stage)
  /-- The call failed. -/
  | failed (error : Error)
  /-- The call lacks an argument that the stage asks for. -/
  | incomplete

/-! ## Calls -/

/-- A call that starts a session. -/
inductive Start where
  | select (columns : List String)
  | upsert (row : RowSource)
  | bulkUpsert (shape : RowShape)
  | parameters (entries : Entries ParameterSource)

/-- A call that moves a session on. -/
inductive Move where
  | fromTable (table : String)
  | intoTable (table : String)
  | addWhere (connective : Connective) (group : List Predicate)
  | orderBy (column : String)
  | limit (rows : Scalar)
  | offset (rows : Scalar)
  /-- Bind rows to the parameter that a bulk upsert declares, or a value to a name: each stage
  takes the argument that it knows. -/
  | bind (rows : Option (List RowSource)) (entry : Option (String × Scalar))
  | bindRows (name : String) (rows : List RowSource)

/-- A call that reads a session. -/
inductive Reading where
  | build
  | table
  | shape
  | get (name : String)
  | size
  /-- Execute against a backend that gives this answer, with the parameters of a slot or none. -/
  | execute (outcome : OutcomeSource) (parameters : Option String)

/-- A step of a program. -/
inductive Step where
  | start (slot : String) (call : Start)
  | move (source target : String) (call : Move)
  | read (slot : String) (reading : Reading)
  /-- Reserved for removing rows. It does nothing. -/
  | remove

/-- The answer to a step. -/
inductive Answer where
  /-- The session that was stored. -/
  | stored (session : Session)
  | built (text : String) (events : List Event)
  | executed (requests : List Request) (outcome : Outcome) (events : List Event)
  | table (name : String)
  | shape (shape : RowShape)
  | found (parameter : Option Parameter)
  | size (entries : Nat)
  | nothing
  | refused (refusal : Refusal)

/-! ## Running -/

/-- A failed call refuses the step. -/
def Refusal.ofExcept {α : Type} : Except Error α → Except Refusal α
  | .ok value => .ok value
  | .error error => .error (.failed error)

/-- The session that a call starts. -/
def Start.session : Start → Except Refusal Session
  | .select columns => .ok (.draftSelect ⟨columns⟩)
  | .upsert row => do return .draftUpsert ⟨← Refusal.ofExcept row.row⟩
  | .bulkUpsert shape => .ok (.draftBulkUpsert ⟨shape⟩)
  | .parameters entries => do
    let entries ← entries.mapM fun (name, source) => do
      return (name, ← Refusal.ofExcept source.parameter)
    return .parameters ⟨entries⟩

/-- The session that a call makes of another. -/
def Session.move (session : Session) (call : Move) : Except Refusal Session :=
  match session, call with
  | .draftSelect draft, .fromTable table => do
    return .select (← Refusal.ofExcept (draft.fromTable table))
  | .draftUpsert draft, .intoTable table => do
    return .upsert (← Refusal.ofExcept (draft.intoTable table))
  | .draftBulkUpsert draft, .intoTable table => do
    return .bulkUpsert (← Refusal.ofExcept (draft.intoTable table))
  | .select source, .addWhere .and group => .ok (.select (source.andWhere group))
  | .select source, .addWhere .or group => .ok (.select (source.orWhere group))
  | .select source, .orderBy column => .ok (.orderedSelect (source.orderBy column))
  | .select source, .limit rows => .ok (.limitedSelect (source.limit rows))
  | .orderedSelect ordered, .limit rows => .ok (.limitedSelect (ordered.limit rows))
  | .limitedSelect limited, .offset rows => .ok (.pagedSelect (limited.offset rows))
  | .bulkUpsert ready, .bind (some rows) _ => do
    return .parameters (ready.bind (← Refusal.ofExcept (rows.mapM RowSource.row)))
  | .parameters bound, .bind _ (some (name, value)) =>
    .ok (.parameters (bound.bind name value))
  | .bulkUpsert _, .bind none _ => .error .incomplete
  | .parameters _, .bind _ none => .error .incomplete
  | .parameters bound, .bindRows name rows => do
    return .parameters (bound.bindRows name (← Refusal.ofExcept (rows.mapM RowSource.row)))
  | session, _ => .error (.noCall session.stage)

/-- The slots of a program. -/
abbrev Slots := Entries Session

namespace Slots

/-- The session stored under a name. -/
def find (slots : Slots) (name : String) : Except Refusal Session :=
  match slots.first? name with
  | some session => .ok session
  | none => .error .noSlot

/-- The statement of a session, if its stage can be built. -/
def buildable (session : Session) : Except Refusal Statement :=
  match session.statement? with
  | some statement => .ok statement
  | none => .error (.noCall session.stage)

/-- The parameters stored under a name. -/
def findParameters (slots : Slots) (name : String) : Except Refusal Parameters := do
  match ← slots.find name with
  | .parameters bound => .ok bound
  | session => .error (.noCall session.stage)

/-- What a reading answers. -/
def read (slots : Slots) (session : Session) (reading : Reading) : Except Refusal Answer :=
  match reading, session with
  | .build, session => do
    let statement ← buildable session
    let (text, world) := statement.build (World.mk () [])
    return .built text (world.journal.filterMap Entry.event?)
  | .execute outcome parameters, session => do
    let statement ← buildable session
    let parameters ← parameters.mapM slots.findParameters
    let outcome ← Refusal.ofExcept outcome.outcome
    let (outcome, world) :=
      statement.execute (Backend.constant outcome) parameters (World.mk () [])
    return .executed (world.journal.filterMap Entry.request?) outcome
      (world.journal.filterMap Entry.event?)
  | .table, .bulkUpsert ready => .ok (.table ready.table.text)
  | .shape, .bulkUpsert ready => .ok (.shape ready.shape)
  | .get name, .parameters bound => .ok (.found (bound.get? name))
  | .size, .parameters bound => .ok (.size bound.size)
  | _, session => .error (.noCall session.stage)

/-- Store what a step made, and answer it; or answer why nothing was stored. -/
def store (slots : Slots) (slot : String) : Except Refusal Session → Slots × Answer
  | .ok session => (slots.put slot session, .stored session)
  | .error refusal => (slots, .refused refusal)

/-- Answer what a step read. -/
def report (slots : Slots) : Except Refusal Answer → Slots × Answer
  | .ok answer => (slots, answer)
  | .error refusal => (slots, .refused refusal)

/-- One step: the slots after it, and its answer. -/
def step (slots : Slots) : Step → Slots × Answer
  | .start slot call => slots.store slot call.session
  | .move source target call => slots.store target do (← slots.find source).move call
  | .read slot reading => slots.report do slots.read (← slots.find slot) reading
  | .remove => (slots, .nothing)

end Slots

/-- A sequence of steps on named slots. -/
abbrev Program := List Step

/-- The answers to the steps from the given slots on. -/
def Program.runFrom : Slots → Program → List Answer
  | _, [] => []
  | slots, step :: steps =>
    let (slots, answer) := slots.step step
    answer :: runFrom slots steps

/-- The answers to the steps, one to each. -/
def Program.run (program : Program) : List Answer := runFrom [] program

end Statements
