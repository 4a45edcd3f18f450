import Statements.Outcome.Records
import Statements.Proofs.Row.Readings

/-!
# What a record reader makes of members

The reader goes through the members once, carrying what it knows and which fields it has seen. When
no name is repeated, none of that shows. A member offends or not by itself (`offence?`), the first
one that offends tells the error, and if none does then every member has been taken up
(`readFrom_eq`). A part of the record that one field sets then holds what the last member of that
name says (`Part.foldl_learn`).

The members of a row repeat no name, because they are the row's entries collapsed. They stand in the
order of the first entries and have the values of the last ones, and the search for the first that
offends goes by both (`findSome?_members`).
-/

namespace Statements

namespace Field

variable {σ τ : Type} {fields : List (Field σ)}

/-- Why a member does not fit, if it does not. A member that is no field always fits. -/
def offence? (fields : List (Field σ)) (name : String) (json : Json) : Option Json.Mismatch :=
  match fields.find? fun field => field.name = name with
  | none => none
  | some field => failure? (field.read json)

/-- What is known of a record after one more member. -/
def learn (fields : List (Field σ)) (known : σ) (member : String × Json) : σ :=
  match fields.find? fun field => field.name = member.1 with
  | none => known
  | some field =>
    match field.read member.2 with
    | .ok change => change known
    | .error _ => known

section First

variable {α : Type} (name : String) (decoder : Json.Decoder α) (take : α → σ → σ)

/-- The first field judges the members of its name. -/
theorem offence?_of_cons (member : String) (json : Json) :
    offence? (of name decoder take :: fields) member json =
      if name = member then failure? (decoder json) else offence? fields member json := by
  rw [offence?, List.find?_cons]
  by_cases same : name = member
  · subst same
    simp only [of, decide_true, if_true]
    exact failure?_map take (decoder json)
  · simp only [of, same, decide_false, if_false]
    rfl

/-- The first field takes up the members of its name. -/
theorem learn_of_cons (known : σ) (member : String) (json : Json) :
    learn (of name decoder take :: fields) known (member, json) =
      if name = member then
        match decoder json with
        | .ok value => take value known
        | .error _ => known
      else learn fields known (member, json) := by
  rw [learn, List.find?_cons]
  by_cases same : name = member
  · subst same
    simp only [of, decide_true, if_true]
    cases decoder json <;> rfl
  · simp only [of, same, decide_false, if_false]
    rfl

end First

/-- **The first offending member tells the error**, and without one all members are taken up. No
field comes a second time, neither among the members nor after those seen before. -/
theorem readFrom_eq {members : Entries Json} {seen : List String} (nodup : members.names.Nodup)
    (new : ∀ name ∈ members.names, name ∉ seen) (known : σ) :
    readFrom fields seen known members =
      match members.findSome? fun member => offence? fields member.1 member.2 with
      | some cause => .error cause
      | none => .ok (members.foldl (learn fields) known) := by
  induction members generalizing seen known with
  | nil => rfl
  | cons member members ih =>
    obtain ⟨name, json⟩ := member
    obtain ⟨apart, others⟩ := List.nodup_cons.mp nodup
    obtain ⟨first, behind⟩ := List.forall_mem_cons.mp new
    rw [readFrom, List.findSome?_cons, List.foldl_cons, offence?, learn]
    cases found : fields.find? fun field => field.name = name with
    | none => exact ih others behind known
    | some field =>
      dsimp only
      rw [if_neg first]
      cases field.read json with
      | error cause => rfl
      | ok change =>
        refine ih others (fun next mem among => ?_) (change known)
        rcases List.mem_cons.mp among with rfl | earlier
        · exact apart mem
        · exact behind next mem earlier

theorem readMembers_eq {members : Entries Json} (nodup : members.names.Nodup) (known : σ) :
    readMembers fields known members =
      match members.findSome? fun member => offence? fields member.1 member.2 with
      | some cause => .error cause
      | none => .ok (members.foldl (learn fields) known) :=
  readFrom_eq nodup (fun _ _ => List.not_mem_nil) known

/-- A part of the record that the members of one name set, and no others. -/
structure Part (fields : List (Field σ)) (name : String) (part : σ → τ) (value : Json → τ) :
    Prop where
  sets : ∀ known json, offence? fields name json = none →
    part (learn fields known (name, json)) = value json
  keeps : ∀ known other json, other ≠ name → part (learn fields known (other, json)) = part known

/-- **A part holds what the last member of its name says.** -/
theorem Part.foldl_learn {name : String} {part : σ → τ} {value : Json → τ}
    (set : Part fields name part value) {members : Entries Json}
    (fit : ∀ member ∈ members, offence? fields member.1 member.2 = none) (known : σ) :
    part (members.foldl (learn fields) known) =
      ((members.last? name).map value).getD (part known) := by
  induction members using List.reverseRecOn with
  | nil => rfl
  | append_singleton members member ih =>
    obtain ⟨next, json⟩ := member
    obtain ⟨earlier, last⟩ := List.forall_mem_append.mp fit
    rw [List.foldl_concat, Entries.last?_concat]
    by_cases same : name = next
    · subst same
      rw [if_pos rfl, set.sets _ _ (last _ (List.mem_singleton_self _))]
      rfl
    · rw [if_neg same, set.keeps _ _ _ (Ne.symm same), ih earlier]

end Field

namespace Row

theorem nodup_names_members (row : Row) : row.members.names.Nodup :=
  Entries.nodup_names_collapse _

/-- A column's member has the column's last scalar. -/
theorem last?_members (row : Row) (column : String) :
    row.members.last? column = (row.last? column).map Scalar.toJson := by
  rw [members, Entries.last?_collapse, Entries.last?_mapValues]
  rfl

/-- **The columns are searched in the order of their first entries, each with its last scalar.** -/
theorem findSome?_members {β : Type} (row : Row) (test : String → Json → Option β) :
    row.members.findSome? (fun member => test member.1 member.2) =
      row.columns.findSome? fun column =>
        (row.last? column).bind fun scalar => test column scalar.toJson := by
  have columns : (row.entries.mapValues Scalar.toJson).names = row.columns := by
    simp only [Row.columns, Entries.names, Entries.mapValues, List.map_map, Function.comp_def]
  rw [members, Entries.findSome?_collapse, columns]
  simp only [Entries.last?_mapValues, Option.bind_map]
  rfl

end Row

/-- Rows are worked through one by one, and what their members say of a failure is the error. -/
theorem Outcome.decode_rows_eq_mapM (α : Type) [OfRow α] (rows : List Row) :
    (Outcome.rows rows).decode α =
      rows.mapM fun row =>
        (OfRow.ofMembers row.members : Except Json.Mismatch α).mapError .mismatch := by
  show rows.mapM _ = rows.mapM _
  congr
  funext row
  cases (OfRow.ofMembers row.members : Except Json.Mismatch α) <;> rfl

end Statements
