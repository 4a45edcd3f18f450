import Statements.Proofs.Entries.Collapse
import Statements.Session

/-!
# Sessions do not interfere

Two runs are compared: that of a whole program, and that of some of its steps alone. A division
marks every step with its group, so it is at once a program, an interleaving of two programs that
keeps the order of each, and a choice of steps to leave out.

A step depends only on the slots that it names (`Slots.Agree.step`) and leaves all others alone
(`Slots.first?_step`). It leaves even those alone if it only reads or if it is refused
(`Slots.step_eq_of_idle`). Each of the two is a simulation of the whole run by the shorter one
(`Simulates`): the shorter run follows the steps of its group, and stands still at all others.

**The law** (`sessions_independent`): groups that name no slot in common answer as each does alone,
in every interleaving; and the steps that stay answer the same when any steps are left out that
only read or that were refused. Answers are compared in full: the session that was stored, the text
that was built, and what an execution handed to a backend that keeps no state.
-/

namespace Statements

/-- The slots that a reading looks up beside the one it reads. -/
def Reading.slots : Reading → List String
  | .execute _ parameters => parameters.toList
  | .build | .table | .shape | .get _ | .size => []

namespace Step

/-- The slots that a step names. -/
def slots : Step → List String
  | .start slot _ => [slot]
  | .move source target _ => [source, target]
  | .read slot reading => slot :: reading.slots
  | .remove => []

/-- The step stores nothing, whatever it answers. -/
def onlyReads : Step → Bool
  | .read .. | .remove => true
  | .start .. | .move .. => false

end Step

def Answer.isRefused : Answer → Bool
  | .refused _ => true
  | _ => false

/-- The step only reads, or it was refused. -/
def Step.Idle (step : Step) (answer : Answer) : Prop := step.onlyReads ∨ answer.isRefused

instance (step : Step) (answer : Answer) : Decidable (step.Idle answer) :=
  inferInstanceAs (Decidable (_ ∨ _))

/-! ## One step -/

namespace Slots

/-- The same sessions are stored under the names. -/
def Agree (names : List String) (slots others : Slots) : Prop :=
  ∀ name ∈ names, slots.first? name = others.first? name

variable {names : List String} {slots others : Slots}

theorem find_congr {name : String} (same : slots.first? name = others.first? name) :
    slots.find name = others.find name := by
  rw [find, find, same]

/-- A reading answers by the slots that it names. -/
theorem Agree.read {reading : Reading} (agree : Agree reading.slots slots others)
    (session : Session) : slots.read session reading = others.read session reading := by
  cases reading with
  | execute outcome parameters =>
    cases parameters with
    | none => rfl
    | some name =>
      have found : slots.find name = others.find name :=
        find_congr (agree name (List.mem_singleton_self name))
      simp only [Slots.read, Option.mapM_some, findParameters, found]
  | build => rfl
  | table | shape | get | size => cases session <;> rfl

theorem Agree.store (agree : Agree names slots others) (slot : String)
    (made : Except Refusal Session) :
    (slots.store slot made).2 = (others.store slot made).2 ∧
      Agree names (slots.store slot made).1 (others.store slot made).1 := by
  cases made with
  | error refusal => exact ⟨rfl, agree⟩
  | ok session =>
    refine ⟨rfl, fun name mem => ?_⟩
    rw [Slots.store, Slots.store, Entries.first?_put, Entries.first?_put, agree name mem]

theorem Agree.report (agree : Agree names slots others) (answer : Except Refusal Answer) :
    (slots.report answer).2 = (others.report answer).2 ∧
      Agree names (slots.report answer).1 (others.report answer).1 := by
  cases answer <;> exact ⟨rfl, agree⟩

/-- A step answers by the slots that it names: where they agree, so do the answers, and the slots
agree after it. -/
theorem Agree.step (agree : Agree names slots others) {step : Step}
    (within : step.slots ⊆ names) :
    (slots.step step).2 = (others.step step).2 ∧
      Agree names (slots.step step).1 (others.step step).1 := by
  have found : ∀ name ∈ step.slots, slots.find name = others.find name :=
    fun name mem => find_congr (agree name (within mem))
  cases step with
  | start slot call => exact agree.store slot call.session
  | move source target call =>
    rw [Slots.step, Slots.step, found source List.mem_cons_self]
    exact agree.store target _
  | read slot reading =>
    have looked : Agree reading.slots slots others :=
      fun name mem => agree name (within (List.mem_cons_of_mem slot mem))
    have same : (do slots.read (← slots.find slot) reading) =
        (do others.read (← others.find slot) reading) := by
      simp only [found slot List.mem_cons_self, looked.read]
    rw [Slots.step, Slots.step, same]
    exact agree.report _
  | remove => exact ⟨rfl, agree⟩

theorem first?_store {slot name : String} (other : name ≠ slot) (made : Except Refusal Session) :
    (slots.store slot made).1.first? name = slots.first? name := by
  cases made with
  | error => rfl
  | ok session => rw [Slots.store, Entries.first?_put, if_neg other]

theorem report_fst (answer : Except Refusal Answer) : (slots.report answer).1 = slots := by
  cases answer <;> rfl

/-- A step leaves every slot alone that it does not name. -/
theorem first?_step {step : Step} {name : String} (outside : name ∉ step.slots) :
    (slots.step step).1.first? name = slots.first? name := by
  cases step with
  | start slot call => exact first?_store (List.ne_of_not_mem_cons outside) call.session
  | move source target call =>
    exact first?_store (List.ne_of_not_mem_cons (List.not_mem_of_not_mem_cons outside)) _
  | read slot reading => rw [Slots.step, report_fst]
  | remove => rfl

theorem store_eq_of_refused {slot : String} {made : Except Refusal Session}
    (refused : (slots.store slot made).2.isRefused) : (slots.store slot made).1 = slots := by
  cases made with
  | error => rfl
  | ok session => exact nomatch refused

/-- A step that only reads, or is refused, leaves every slot alone. -/
theorem step_eq_of_idle {step : Step} (idle : step.Idle (slots.step step).2) :
    (slots.step step).1 = slots := by
  cases step with
  | start | move =>
    obtain reads | refused := idle
    · exact nomatch reads
    · exact store_eq_of_refused refused
  | read => exact report_fst _
  | remove => rfl

end Slots

/-! ## Two runs -/

theorem Program.runFrom_cons (slots : Slots) (step : Step) (program : Program) :
    runFrom slots (step :: program) =
      (slots.step step).2 :: runFrom (slots.step step).1 program := rfl

/-- A program whose steps belong to two groups. -/
abbrev Division := List (Bool × Step)

namespace Division

/-- All steps. -/
def program (division : Division) : Program := division.map Prod.snd

/-- The steps of a group, in their order. -/
def group (division : Division) (side : Bool) : Program :=
  (division.filter fun marked => marked.1 = side).map Prod.snd

/-- All steps with their answers in one run. -/
def answered (slots : Slots) (division : Division) : List ((Bool × Step) × Answer) :=
  division.zip (Program.runFrom slots division.program)

/-- The answers to the steps of a group in the run of all steps. -/
def answers (slots : Slots) (division : Division) (side : Bool) : List Answer :=
  ((answered slots division).filter fun entry => entry.1.1 = side).map Prod.snd

variable {slots : Slots} {side : Bool}

theorem answered_cons (marked : Bool × Step) (division : Division) :
    answered slots (marked :: division) =
      (marked, (slots.step marked.2).2) :: answered (slots.step marked.2).1 division := rfl

theorem answers_cons_self (step : Step) (division : Division) :
    answers slots ((side, step) :: division) side =
      (slots.step step).2 :: answers (slots.step step).1 division side := by
  simp [answers, answered_cons]

theorem answers_cons_of_ne {mark : Bool} (other : mark ≠ side) (step : Step)
    (division : Division) :
    answers slots ((mark, step) :: division) side =
      answers (slots.step step).1 division side := by
  simp [answers, answered_cons, other]

theorem group_cons_self (step : Step) (division : Division) :
    group ((side, step) :: division) side = step :: division.group side := by
  simp [group]

theorem group_cons_of_ne {mark : Bool} (other : mark ≠ side) (step : Step)
    (division : Division) : group ((mark, step) :: division) side = division.group side := by
  simp [group, other]

theorem mem_group {division : Division} {step : Step} :
    step ∈ division.group side ↔ (side, step) ∈ division := by
  simp [group]

end Division

/-- A run of some steps simulates the run of all: from related slots it answers the steps that it
keeps in the same way, it stands still at the others, and the slots stay related. -/
structure Simulates (related : Slots → Slots → Prop) (kept : Step → Prop)
    (dropped : Step → Answer → Prop) : Prop where
  follow : ∀ {slots others step}, related slots others → kept step →
    (slots.step step).2 = (others.step step).2 ∧
      related (slots.step step).1 (others.step step).1
  ignore : ∀ {slots others step}, related slots others → dropped step (slots.step step).2 →
    related (slots.step step).1 others

section Simulates

variable {related : Slots → Slots → Prop} {kept : Step → Prop} {dropped : Step → Answer → Prop}

/-- **The run**: the steps of a group answer in the run of all as they do in the run of the group,
if the group is kept and all else is dropped. -/
theorem Simulates.answers (simulates : Simulates related kept dropped) {division : Division}
    {side : Bool} {slots others : Slots} (start : related slots others)
    (keeps : ∀ step ∈ division.group side, kept step)
    (drops : ∀ entry ∈ division.answered slots, entry.1.1 ≠ side → dropped entry.1.2 entry.2) :
    division.answers slots side = Program.runFrom others (division.group side) := by
  induction division generalizing slots others with
  | nil => rfl
  | cons marked division ih =>
    obtain ⟨mark, step⟩ := marked
    rw [Division.answered_cons] at drops
    have later : ∀ entry ∈ Division.answered (slots.step step).1 division,
        entry.1.1 ≠ side → dropped entry.1.2 entry.2 :=
      fun entry mem => drops entry (List.mem_cons_of_mem _ mem)
    by_cases same : mark = side
    · subst same
      rw [Division.group_cons_self, List.forall_mem_cons] at keeps
      obtain ⟨answer, next⟩ := simulates.follow start keeps.1
      rw [Division.answers_cons_self, Division.group_cons_self, Program.runFrom_cons, answer,
        ih next keeps.2 later]
    · rw [Division.group_cons_of_ne same] at keeps
      have next := simulates.ignore start (drops _ List.mem_cons_self same)
      rw [Division.answers_cons_of_ne same, Division.group_cons_of_ne same, ih next keeps later]

/-- The run of a group, on slots that agree under the names of the group. -/
theorem simulates_agree (names : List String) :
    Simulates (Slots.Agree names) (fun step => step.slots ⊆ names)
      (fun step _ => step.slots.Disjoint names) where
  follow agree within := agree.step within
  ignore agree apart name mem :=
    (Slots.first?_step fun shared => apart shared mem).trans (agree name mem)

/-- The run without idle steps, on the same slots. -/
theorem simulates_eq : Simulates Eq (fun _ => True) Step.Idle where
  follow same _ := by rw [same]; exact ⟨rfl, rfl⟩
  ignore same idle := (Slots.step_eq_of_idle idle).trans same

end Simulates

namespace Division

/-- A group that shares no slot with the rest answers as it does alone. -/
theorem answers_of_disjoint {division : Division} {side : Bool}
    (apart : ∀ step ∈ division.group side, ∀ other ∈ division.group !side,
      step.slots.Disjoint other.slots) :
    division.answers [] side = (division.group side).run := by
  refine (simulates_agree ((division.group side).flatMap Step.slots)).answers (fun _ _ => rfl)
    (fun step mem name named => List.mem_flatMap.mpr ⟨step, mem, named⟩) ?_
  rintro ⟨⟨mark, other⟩, answer⟩ mem foreign name named shared
  obtain ⟨step, kept, uses⟩ := List.mem_flatMap.mp shared
  have dropped : other ∈ division.group !side := by
    rw [mem_group, ← Bool.eq_not.mpr foreign]
    exact (List.of_mem_zip mem).1
  exact apart step kept other dropped uses named

/-- Idle steps can be left out. -/
theorem answers_of_idle {division : Division} {side : Bool}
    (idle : ∀ entry ∈ division.answered [], entry.1.1 ≠ side → entry.1.2.Idle entry.2) :
    division.answers [] side = (division.group side).run :=
  simulates_eq.answers rfl (fun _ _ => trivial) idle

end Division

/-- **Sessions do not interfere.** Two programs that name no slot in common answer in every
interleaving as each answers alone. And whatever steps of a program only read or are refused, the
other steps answer without them as they do with them. -/
theorem sessions_independent :
    (∀ (left right : Program) (division : Division),
      (∀ step ∈ left, ∀ other ∈ right, step.slots.Disjoint other.slots) →
      division.group true = left → division.group false = right →
      division.answers [] true = left.run ∧ division.answers [] false = right.run) ∧
    ∀ division : Division,
      (∀ entry ∈ division.answered [], entry.1.1 = false → entry.1.2.Idle entry.2) →
      division.answers [] true = (division.group true).run := by
  refine ⟨?_, fun division idle => ?_⟩
  · rintro left right division apart rfl rfl
    have back : ∀ step ∈ division.group false, ∀ other ∈ division.group true,
        step.slots.Disjoint other.slots :=
      fun step mem other kept _ named shared => apart other kept step mem shared named
    exact ⟨Division.answers_of_disjoint apart, Division.answers_of_disjoint back⟩
  · exact Division.answers_of_idle fun entry mem foreign =>
      idle entry mem (Bool.eq_false_iff.mpr foreign)

/-- A select beside parameters under another name; and a select whose program also drafts a row
that is no object, names no table, names one twice, limits what nobody started, is executed, and
removes. -/
theorem sessions_independent_beside :
    (let beside : Division :=
      [(true, .start "q" (.select [])), (false, .start "p" (.parameters [])),
        (true, .move "q" "q" (.fromTable "t")), (false, .read "p" .size)]
    beside.answers [] true = (beside.group true).run ∧
      beside.answers [] false = (beside.group false).run) ∧
    let failing : Division :=
      [(true, .start "q" (.select [])), (false, .start "q" (.upsert (.json "[]"))),
        (false, .move "q" "q" (.fromTable "")), (true, .move "q" "q" (.fromTable "t")),
        (false, .move "q" "q" (.fromTable "u")), (false, .move "nobody" "q" (.limit .null)),
        (false, .read "q" (.execute .success none)), (false, .remove), (true, .read "q" .build)]
    failing.answers [] true =
      Program.run [.start "q" (.select []), .move "q" "q" (.fromTable "t"), .read "q" .build] := by
  refine ⟨sessions_independent.1 _ _ _ ?_ rfl rfl, sessions_independent.2 _ ?_⟩
  · simp [Division.group, Step.slots, Reading.slots]
  · decide

end Statements
