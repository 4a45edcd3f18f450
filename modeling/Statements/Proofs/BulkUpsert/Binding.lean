import Statements.Proofs.Entries.Collapse
import Statements.Proofs.Execution.Journal
import Statements.Proofs.TableName

/-!
# The rows of a bulk upsert and the name they are bound to

The text of a bulk upsert does not hold its rows. What ties the two together is a name: the
statement declares a parameter and inserts what it holds, and the rows are bound to the parameter
of that name. Further bindings may follow, and any of them may take the name again.

They do no harm, because binding only appends and looking up answers the first entry. So however
many bindings follow, what is handed over is the declared name with the rows, in the statement and
in the parameters, and behind the rows every later binding in its place (`handed_over`).
-/

namespace Statements

namespace Parameters

/-- Bind a value or rows to a name. -/
def bindEntry (bound : Parameters) (entry : String × Parameter) : Parameters :=
  match entry with
  | (name, .value value) => bound.bind name value
  | (name, .rows rows) => bound.bindRows name rows

/-- Bindings one after another. -/
def bindAll (bound : Parameters) (later : Entries Parameter) : Parameters :=
  later.foldl bindEntry bound

theorem entries_bindEntry (bound : Parameters) (entry : String × Parameter) :
    (bound.bindEntry entry).entries = bound.entries ++ [entry] := by
  obtain ⟨name, value | rows⟩ := entry <;> rfl

/-- No binding replaces, drops or moves an earlier one. -/
theorem entries_bindAll (bound : Parameters) (later : Entries Parameter) :
    (bound.bindAll later).entries = bound.entries ++ later := by
  induction later generalizing bound with
  | nil => exact (List.append_nil _).symm
  | cons entry later ih =>
    rw [bindAll, List.foldl_cons]
    show ((bound.bindEntry entry).bindAll later).entries = _
    rw [ih, entries_bindEntry, List.append_assoc, List.singleton_append]

end Parameters

/-- However it is executed, a statement hands over the request and nothing else, and answers what
the backend answers to it. -/
def Statement.HandsOver (statement : Statement) (parameters : Option Parameters)
    (request : Request) : Prop :=
  ∀ (σ : Type) (backend : Backend σ) (world : World σ),
    let (outcome, after) := (statement.execute backend parameters).run world
    (outcome, after.backend) = backend.answer world.backend request ∧
      after.journal.filterMap Entry.request? =
        world.journal.filterMap Entry.request? ++ [request]

theorem Statement.handsOver (statement : Statement) (parameters : Option Parameters) :
    statement.HandsOver parameters ⟨statement.text, parameters⟩ := by
  intro σ backend world
  cases answered : backend.answer world.backend ⟨statement.text, parameters⟩ with
  | mk outcome next =>
    rw [statement.run_execute backend parameters world answered]
    refine ⟨rfl, ?_⟩
    rw [List.filterMap_append]
    cases outcome <;> rfl

namespace BulkUpsert

/-- The text opens with the declared name and closes with it. -/
theorem Ready.text_eq (upsert : Ready) :
    ∃ middle, upsert.text = "DECLARE " ++ upsert.shape.parameter ++ " AS List<Struct<" ++ middle ++
      "FROM AS_TABLE(" ++ upsert.shape.parameter ++ ");" := by
  obtain ⟨fields, declaration⟩ : ∃ fields, upsert.shape.declaration =
      "DECLARE " ++ upsert.shape.parameter ++ (" AS List<Struct<" ++ "\n") ++ fields ++ ">>;\n" :=
    ⟨_, rfl⟩
  obtain ⟨columns, insertion⟩ : ∃ columns, upsert.shape.insertion upsert.table =
      "UPSERT INTO " ++ upsert.table.text ++ "\nSELECT\n" ++ columns ++
        ("\n" ++ "FROM AS_TABLE(") ++ upsert.shape.parameter ++ ");" := ⟨_, rfl⟩
  refine ⟨"\n" ++ fields ++ ">>;\n" ++ "\n" ++ "UPSERT INTO " ++ upsert.table.text ++
    "\nSELECT\n" ++ columns ++ "\n", ?_⟩
  rw [Ready.text, declaration, insertion]
  simp only [String.append_assoc]

/-- **The rows are handed over under the declared name,** whatever is bound after them. The
statement opens and closes with the name, and the parameters hold the rows under it; any other name
answers what it was bound to first. Every binding is there, in its place. -/
theorem handed_over (shape : RowShape) {table : String} (named : table ≠ "") (rows : List Row)
    (later : Entries Parameter) :
    ∃ ready, (Draft.mk shape).intoTable table = .ok ready ∧
      let bound := (ready.bind rows).bindAll later
      (∃ middle, (Statement.bulkUpsert ready).HandsOver (some bound)
        ⟨"DECLARE " ++ shape.parameter ++ " AS List<Struct<" ++ middle ++
          "FROM AS_TABLE(" ++ shape.parameter ++ ");", some bound⟩) ∧
      bound.get? shape.parameter = some (.rows rows) ∧
      (∀ name, name ≠ shape.parameter →
        bound.get? name = (later.find? fun entry => entry.1 = name).map Prod.snd) ∧
      bound.size = 1 + later.length ∧
      bound.entries = (shape.parameter, .rows rows) :: later := by
  let ready : Ready := ⟨shape, table, named⟩
  have taken : (Draft.mk shape).intoTable table = .ok ready := by
    rw [Draft.intoTable, TableName.ofText_text ⟨table, named⟩]
    rfl
  have entries : ((ready.bind rows).bindAll later).entries =
      (shape.parameter, .rows rows) :: later := Parameters.entries_bindAll _ later
  refine ⟨ready, taken, ?_, ?_, ?_, ?_, entries⟩
  · obtain ⟨middle, text⟩ := ready.text_eq
    exact ⟨middle, text ▸ Statement.handsOver _ _⟩
  · rw [Parameters.get?, entries, Entries.first?_cons, if_pos rfl]
  · intro name other
    rw [Parameters.get?, entries, Entries.first?_cons, if_neg other, Entries.first?_eq_find?]
  · rw [Parameters.size, entries, List.length_cons, Nat.add_comm]

/-- Bindings that take the declared name again, and another name twice. -/
def rebindings : Entries Parameter :=
  [("$rows", .rows []), ("$n", .value (.signed 1)), ("$rows", .value .null), ("$n", .value .null)]

theorem handed_over_rebound :
    "t" ≠ "" ∧ ∃ ready, (Draft.mk ⟨"$rows", [("a", "Int64")]⟩).intoTable "t" = .ok ready ∧
      let rows := [.ofList [("a", .signed 1), ("a", .null)], .empty]
      let bound := (ready.bind rows).bindAll rebindings
      bound.get? "$rows" = some (.rows rows) ∧
      bound.get? "$n" = some (.value (.signed 1)) ∧ bound.get? "$m" = none ∧ bound.size = 5 := by
  have named : "t" ≠ "" := by decide
  obtain ⟨ready, taken, -, declared, others, size, -⟩ :=
    handed_over ⟨"$rows", [("a", "Int64")]⟩ named
      [.ofList [("a", .signed 1), ("a", .null)], .empty] rebindings
  refine ⟨named, ready, taken, declared, ?_, ?_, size⟩
  · exact (others "$n" (by decide)).trans rfl
  · exact (others "$m" (by decide)).trans rfl

end BulkUpsert

end Statements
