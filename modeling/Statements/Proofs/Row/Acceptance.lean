import Statements.Proofs.Scalar.Integer

/-!
# Which JSON values are rows

A row is taken from an object whose values have no parts, and from nothing else. It then has the
members of the object as they are, in their order: written as JSON they are the same members again.
Numbers never stand in the way, because one of the two ranges or the doubles hold every number that
JSON values have.

What is refused is named. Of an object it is the first value with parts, whatever comes behind it;
anything else is named as a whole (`Refuses`). A text is refused for what its JSON value is, and
that has forgotten what the text wrote under a name that came again: a value with parts does no harm
if a later one without parts replaces it.
-/

namespace Statements

namespace Scalar

/-- A value without parts has a scalar, which is written as the value again. -/
theorem ofJson_of_isScalar {json : Json} (whole : json.isScalar = true) :
    ∃ scalar, ofJson json = .ok scalar ∧ scalar.toJson = json := by
  cases json with
  | null => exact ⟨.null, rfl, rfl⟩
  | bool b => exact ⟨.bool b, rfl, rfl⟩
  | number n =>
    cases n with
    | integer n => exact ⟨ofInteger n, ofJson_integer n, toJson_ofInteger n⟩
    | float x finite =>
      refine ⟨.float x, rfl, ?_⟩
      rw [toJson, Json.Number.ofBinary64?, dif_pos finite]
  | string s => exact ⟨.text s, rfl, rfl⟩
  | array | object => cases whole

theorem ofJson_of_parts {json : Json} (parts : json.isScalar = false) :
    ofJson json = .error (.invalidArgument (.notScalar json)) := by
  cases json with
  | array | object => rfl
  | null | bool | number | string => cases parts

end Scalar

namespace Row

/-- Members without parts are the entries of a row, which is written as the members again. -/
theorem ofMembers_of_isScalar {members : Entries Json}
    (whole : ∀ member ∈ members, member.2.isScalar = true) :
    ∃ row, ofMembers Scalar.ofJson members = .ok row ∧
      row.entries.mapValues Scalar.toJson = members := by
  suffices ∃ entries : Entries Scalar,
      Entries.Related (fun json value => Scalar.ofJson json = .ok value) members entries ∧
        entries.mapValues Scalar.toJson = members by
    obtain ⟨entries, related, written⟩ := this
    exact ⟨⟨entries⟩, ofMembers_eq_ok.mpr related, written⟩
  induction members with
  | nil => exact ⟨[], .nil, rfl⟩
  | cons member members ih =>
    obtain ⟨name, json⟩ := member
    obtain ⟨first, others⟩ := List.forall_mem_cons.mp whole
    obtain ⟨scalar, taken, rfl⟩ := Scalar.ofJson_of_isScalar first
    obtain ⟨entries, related, rfl⟩ := ih others
    exact ⟨(name, scalar) :: entries, .cons ⟨rfl, taken⟩ related, rfl⟩

/-- The first member with parts is refused. -/
theorem ofMembers_of_parts {before after : Entries Json} {name : String} {found : Json}
    (whole : ∀ member ∈ before, member.2.isScalar = true) (parts : found.isScalar = false) :
    ofMembers Scalar.ofJson (before ++ (name, found) :: after) =
      .error (.invalidArgument (.notScalar found)) := by
  rw [ofMembers, mapM_eq_error_of_first]
  · rfl
  · intro member mem
    obtain ⟨scalar, taken, -⟩ := Scalar.ofJson_of_isScalar (whole member mem)
    refine ⟨(member.1, scalar), ?_⟩
    simp only [taken, bind, Except.bind, pure, Except.pure]
  · simp only [Scalar.ofJson_of_parts parts, bind, Except.bind]

/-- Either no member has parts, or there is a first one that has. -/
theorem whole_or_first_parts (members : Entries Json) :
    (∀ member ∈ members, member.2.isScalar = true) ∨
      ∃ before name found after, members = before ++ (name, found) :: after ∧
        (∀ member ∈ before, member.2.isScalar = true) ∧ found.isScalar = false := by
  induction members with
  | nil => exact .inl (List.forall_mem_nil _)
  | cons member members ih =>
    obtain ⟨name, json⟩ := member
    cases whole : json.isScalar with
    | false => exact .inr ⟨[], name, json, members, rfl, List.forall_mem_nil _, whole⟩
    | true =>
      rcases ih with others | ⟨before, next, found, after, rfl, others, parts⟩
      · exact .inl (List.forall_mem_cons.mpr ⟨whole, others⟩)
      · exact .inr ⟨(name, json) :: before, next, found, after, rfl,
          List.forall_mem_cons.mpr ⟨whole, others⟩, parts⟩

/-- **A row is taken from exactly the objects without nesting.** -/
theorem exists_ofJson_iff (json : Json) :
    (∃ row, ofJson json = .ok row) ↔
      ∃ members, json = .object members ∧ ∀ member ∈ members, member.2.isScalar = true := by
  constructor
  · rintro ⟨row, taken⟩
    cases json with
    | object members =>
      refine ⟨members, rfl, ?_⟩
      rcases whole_or_first_parts members with
        whole | ⟨before, name, found, after, rfl, whole, parts⟩
      · exact whole
      · rw [ofJson, ofMembers_of_parts whole parts] at taken
        cases taken
    | null | bool | number | string | array => cases taken
  · rintro ⟨members, rfl, whole⟩
    obtain ⟨row, taken, -⟩ := ofMembers_of_isScalar whole
    exact ⟨row, taken⟩

/-- The row has the members of its object as they are. -/
theorem mapValues_of_ofJson {members : Entries Json} {row : Row}
    (taken : ofJson (.object members) = .ok row) :
    row.entries.mapValues Scalar.toJson = members := by
  obtain ⟨_, same, whole⟩ := (exists_ofJson_iff _).mp ⟨row, taken⟩
  cases same
  obtain ⟨other, read, written⟩ := ofMembers_of_isScalar whole
  obtain rfl : row = other := Except.ok.inj (taken.symm.trans read)
  exact written

/-- The argument is refused with the complaint. -/
def Refuses (json : Json) (complaint : String) : Prop :=
  ∃ cause, ofJson json = .error (.invalidArgument cause) ∧ cause.complaint = complaint

theorem refuses_parts {before after : Entries Json} {name : String} {found : Json}
    (whole : ∀ member ∈ before, member.2.isScalar = true) (parts : found.isScalar = false) :
    Refuses (.object (before ++ (name, found) :: after))
      ("Expected a scalar value, got " ++ found.text) :=
  ⟨.notScalar found, ofMembers_of_parts whole parts, rfl⟩

theorem refuses_other {json : Json} (other : ∀ members, json ≠ .object members) :
    Refuses json ("Expected a JSON object for a row, got " ++ json.text) := by
  refine ⟨.notObject json, ?_, rfl⟩
  cases json with
  | object members => exact absurd rfl (other members)
  | null | bool | number | string | array => rfl

/-- Nothing else is said of what is refused. -/
theorem cause_of_ofJson {json : Json} {error : Error} (refused : ofJson json = .error error) :
    (∃ found, error = .invalidArgument (.notScalar found)) ∨
      error = .invalidArgument (.notObject json) := by
  cases json with
  | object members =>
    rcases whole_or_first_parts members with whole | ⟨before, name, found, after, rfl, whole, parts⟩
    · obtain ⟨row, taken, -⟩ := ofMembers_of_isScalar whole
      rw [ofJson, taken] at refused
      cases refused
    · rw [ofJson, ofMembers_of_parts whole parts] at refused
      cases refused
      exact .inl ⟨found, rfl⟩
  | null | bool | number | string | array =>
    cases refused
    exact .inr rfl

/-! ## Rows of texts -/

theorem ofJsonText_of_parse {text : String} {json : Json} (parsed : Json.parse text = .ok json) :
    ofJsonText text = ofJson json := by
  rw [ofJsonText, Json.ofText, parsed]
  rfl

/-- A text is accepted if every name that it writes has a value without parts in the end. -/
theorem exists_ofJsonText_iff {text : String} {written : Entries Json}
    (writes : Json.writtenMembers text = .ok written) :
    (∃ row, ofJsonText text = .ok row) ↔
      ∀ name found, written.last? name = some found → found.isScalar = true := by
  have answers : ∀ name found,
      written.last? name = some found ↔ (name, found) ∈ written.collapse := by
    intro name found
    rw [Entries.mem_iff_first?_eq_some written.nodup_names_collapse, Entries.first?_collapse]
  rw [ofJsonText_of_parse (Json.parse_eq_object.mpr ⟨written, writes, rfl⟩), exists_ofJson_iff]
  constructor
  · rintro ⟨members, same, whole⟩ name found last
    cases same
    exact whole (name, found) ((answers name found).mp last)
  · intro whole
    refine ⟨written.collapse, rfl, ?_⟩
    rintro ⟨name, found⟩ mem
    exact whole name found ((answers name found).mpr mem)

/-- An array that a later member replaces, and behind it two arrays that stay. -/
def nesting : String := "\x7b\"a\": [true], \"b\": [[true], \"x\"], \"d\": [], \"a\": null\x7d"

/-- The same array, replaced, and nothing nested behind it. -/
def replaced : String := "\x7b\"a\": [true], \"b\": \"x\", \"a\": null\x7d"

/-- What that text writes. -/
def replacedMembers : Entries Json :=
  [("a", .array [.bool true]), ("b", .string "x"), ("a", .null)]

end Row

end Statements
