import Mathlib.Data.List.Forall2

/-!
# Computations that succeed

Readers and decoders fail in many ways, and a law about their answers does not care which. So the
laws are stated about success: a computation in parts answers exactly if its parts do, and a list is
worked through exactly if each of its elements is. A law about errors needs one more: the first
element that fails tells the error of the list (`mapM_eq_error_of_first`).
-/

namespace Statements

variable {ε α β : Type}

theorem bind_eq_ok {before : Except ε α} {onward : α → Except ε β} {answer : β} :
    before.bind onward = .ok answer ↔
      ∃ middle, before = .ok middle ∧ onward middle = .ok answer := by
  cases before <;> simp [Except.bind]

/-- The error, if there is one. -/
def failure? : Except ε α → Option ε
  | .ok _ => none
  | .error cause => some cause

theorem failure?_map (change : α → β) (answer : Except ε α) :
    failure? (answer.map change) = failure? answer := by
  cases answer <;> rfl

theorem failure?_eq_none {answer : Except ε α} :
    failure? answer = none ↔ ∃ value, answer = .ok value := by
  cases answer <;> simp [failure?]

theorem map_eq_ok {before : Except ε α} {change : α → β} {answer : β} :
    before.map change = .ok answer ↔ ∃ middle, before = .ok middle ∧ change middle = answer := by
  cases before <;> simp [Except.map]

theorem mapError_eq_ok {δ : Type} {answer : Except ε α} {change : ε → δ} {value : α} :
    answer.mapError change = .ok value ↔ answer = .ok value := by
  cases answer <;> simp [Except.mapError]

theorem mapError_eq_error {δ : Type} {answer : Except ε α} {change : ε → δ} {cause : δ} :
    answer.mapError change = .error cause ↔
      ∃ found, answer = .error found ∧ change found = cause := by
  cases answer <;> simp [Except.mapError]

/-- Elements are worked through one by one, and each has to succeed. -/
theorem mapM_eq_ok {work : α → Except ε β} {elements : List α} {answers : List β} :
    elements.mapM work = .ok answers ↔
      List.Forall₂ (fun element answer => work element = .ok answer) elements answers := by
  induction elements generalizing answers with
  | nil =>
    rw [List.mapM_nil, List.forall₂_nil_left_iff]
    exact ⟨fun same => (Except.ok.inj same).symm, fun none => congrArg Except.ok none.symm⟩
  | cons element elements ih =>
    rw [List.mapM_cons, List.forall₂_cons_left_iff]
    constructor
    · intro worked
      obtain ⟨first, taken, rest⟩ := bind_eq_ok.mp worked
      obtain ⟨others, more, done⟩ := bind_eq_ok.mp rest
      exact ⟨first, others, taken, ih.mp more, (Except.ok.inj done).symm⟩
    · rintro ⟨first, others, taken, more, rfl⟩
      exact bind_eq_ok.mpr ⟨first, taken, bind_eq_ok.mpr ⟨others, ih.mpr more, rfl⟩⟩

/-- The first element that fails tells the error, whatever comes after it. -/
theorem mapM_eq_error_of_first {work : α → Except ε β} {before after : List α} {element : α}
    {cause : ε} (worked : ∀ earlier ∈ before, ∃ answer, work earlier = .ok answer)
    (fails : work element = .error cause) :
    (before ++ element :: after).mapM work = .error cause := by
  induction before with
  | nil =>
    simp only [List.nil_append, List.mapM_cons, fails, bind, Except.bind]
  | cons earlier before ih =>
    obtain ⟨⟨answer, taken⟩, others⟩ := List.forall_mem_cons.mp worked
    simp only [List.cons_append, List.mapM_cons, taken, ih others, bind, Except.bind]

/-- All elements have to succeed, and that is enough. -/
theorem exists_mapM_eq_ok {work : α → Except ε β} {elements : List α} :
    (∃ answers, elements.mapM work = .ok answers) ↔
      ∀ element ∈ elements, ∃ answer, work element = .ok answer := by
  induction elements with
  | nil => exact ⟨fun _ => List.forall_mem_nil _, fun _ => ⟨[], List.mapM_nil⟩⟩
  | cons element elements ih =>
    rw [List.forall_mem_cons, ← ih]
    constructor
    · rintro ⟨answers, worked⟩
      obtain ⟨first, others, taken, more, -⟩ := List.forall₂_cons_left_iff.mp (mapM_eq_ok.mp worked)
      exact ⟨⟨first, taken⟩, others, mapM_eq_ok.mpr more⟩
    · rintro ⟨⟨first, taken⟩, others, more⟩
      exact ⟨first :: others, mapM_eq_ok.mpr (.cons taken (mapM_eq_ok.mp more))⟩

/-- If `blame?` tells each element's error, then the first blame is the error of the list. -/
theorem mapM_eq_error {work : α → Except ε β} {blame? : α → Option ε}
    (each : ∀ element cause, work element = .error cause ↔ blame? element = some cause)
    {elements : List α} {cause : ε} :
    elements.mapM work = .error cause ↔ elements.findSome? blame? = some cause := by
  have worked : ∀ element, blame? element = none → ∃ answer, work element = .ok answer := by
    intro element none
    cases taken : work element with
    | ok answer => exact ⟨answer, rfl⟩
    | error found => rw [(each element found).mp taken] at none; cases none
  cases search : elements.findSome? blame? with
  | none =>
    obtain ⟨answers, taken⟩ := exists_mapM_eq_ok.mpr fun element mem =>
      worked element (List.findSome?_eq_none_iff.mp search element mem)
    simp [taken]
  | some found =>
    obtain ⟨before, element, after, rfl, fails, earlier⟩ := List.findSome?_eq_some_iff.mp search
    rw [mapM_eq_error_of_first (fun element mem => worked element (earlier element mem))
      ((each element found).mpr fails), Except.error.injEq, Option.some.injEq]

end Statements
