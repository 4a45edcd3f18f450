import Statements.BulkUpsert
import Statements.Outcome.Basic
import Statements.Select
import Statements.Upsert

/-!
# Building and executing statements

Building a statement leaves a trace of its text in the log. Executing it builds it once, hands the
text to the backend once, with the parameters or without, and answers what the backend answers.
The log and the requests to the backend are data: a run is a function of the backend's state that
answers the new state and a journal of everything that happened, in order.
-/

namespace Statements

/-- A statement that can be built. -/
inductive Statement where
  | select (query : Select.Query)
  | upsert (ready : Upsert.Ready)
  | bulkUpsert (ready : BulkUpsert.Ready)

def Statement.text : Statement → String
  | .select query => query.text
  | .upsert ready => ready.text
  | .bulkUpsert ready => ready.text

/-- The kind of a statement, as the log names it. -/
def Statement.kind : Statement → String
  | .select _ => "select"
  | .upsert _ => "upsert"
  | .bulkUpsert _ => "bulk upsert"

/-- How much a log event matters. -/
inductive Level where
  | trace
  | debug
  | warn
deriving DecidableEq

/-- An event of the log. -/
inductive Event where
  /-- A statement was built. -/
  | built (kind : String) (text : String)
  /-- A statement is about to be handed over, with so many bound parameters. -/
  | executing (text : String) (parameters : Nat)
  /-- The backend answered a failure. -/
  | failed (code : UInt16) (text : String)
deriving DecidableEq

namespace Event

def level : Event → Level
  | .built .. => .trace
  | .executing .. => .debug
  | .failed .. => .warn

def message : Event → String
  | .built kind _ => "built " ++ kind ++ " statement"
  | .executing .. => "executing statement"
  | .failed .. => "statement failed"

/-- The named fields, in order. -/
def fields : Event → List (String × String)
  | .built _ text => [("sql", text)]
  | .executing text parameters => [("sql", text), ("params", toString parameters)]
  | .failed code text => [("code", toString code.toNat), ("sql", text)]

end Event

/-- What a backend is handed. -/
structure Request where
  text : String
  parameters : Option Parameters

/-- A database: its answer may depend on everything that it was handed before. -/
structure Backend (σ : Type) where
  answer : σ → Request → Outcome × σ

/-- The backend that gives one answer to everything. -/
def Backend.constant (outcome : Outcome) : Backend Unit := ⟨fun _ _ => (outcome, ())⟩

/-- Something that happened in a run. -/
inductive Entry where
  | logged (event : Event)
  | sent (request : Request)

def Entry.event? : Entry → Option Event
  | .logged event => some event
  | .sent _ => none

def Entry.request? : Entry → Option Request
  | .logged _ => none
  | .sent request => some request

/-- The state of a run: that of the backend, and what happened so far. -/
structure World (σ : Type) where
  backend : σ
  journal : List Entry

namespace World

variable {σ : Type}

/-- Write an entry into the journal. -/
def record (entry : Entry) : StateM (World σ) Unit :=
  modify fun world => { world with journal := world.journal ++ [entry] }

/-- Hand a request to the backend. -/
def send (backend : Backend σ) (request : Request) : StateM (World σ) Outcome := do
  record (.sent request)
  modifyGet fun world =>
    let (outcome, next) := backend.answer world.backend request
    (outcome, { world with backend := next })

end World

namespace Statement

variable {σ : Type}

/-- The text of the statement, which the log shows too. -/
def build (statement : Statement) : StateM (World σ) String := do
  World.record (.logged (.built statement.kind statement.text))
  return statement.text

/-- Build the statement and hand it over. -/
def execute (statement : Statement) (backend : Backend σ) (parameters : Option Parameters) :
    StateM (World σ) Outcome := do
  let text ← statement.build
  World.record (.logged (.executing text (parameters.elim 0 Parameters.size)))
  let outcome ← World.send backend ⟨text, parameters⟩
  if let .failure code := outcome then
    World.record (.logged (.failed code text))
  return outcome

end Statement

end Statements
