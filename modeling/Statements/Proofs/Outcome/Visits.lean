import Statements.Proofs.Outcome.Records

/-!
# Rows read as visits

A visit wants two integers, a date and a count, each of an unsigned range. Which rows are visits is
a matter of two columns and of their last scalars alone (`Visit.Reads`). Neither the other columns
nor what a column gave before play a part, and a double that is not finite does harm only if it is
the last scalar of one of the two.

A row that is no visit is blamed for one thing (`Visit.blame?`). That is the first column whose last
scalar is no integer or is out of range, where a column comes as early as its first entry; a column
that is missing is blamed only if the other one does not offend. A row never gives a column twice
when it is read, so no repetition is ever blamed.
-/

namespace Statements

namespace Scalar

/-- The integer that the scalar is, of either range. -/
def integer? : Scalar → Option Int
  | .signed n => some n.toInt
  | .unsigned n => some n.toNat
  | _ => none

/-- Why the scalar is no integer of the range, if it is none. -/
def offence? (range : Json.IntegerRange) (scalar : Scalar) : Option Json.Mismatch :=
  match scalar.integer? with
  | some n => if range.holds n then none else some (.outOfRange n range)
  | none => some (.wrongType scalar.toJson (.integer range))

/-- The JSON value of a scalar is read as the integer that the scalar is. -/
theorem decode_integer_toJson (range : Json.IntegerRange) (scalar : Scalar) :
    Json.Decoder.integer range scalar.toJson =
      match scalar.integer? with
      | some n => if range.holds n then .ok n else .error (.outOfRange n range)
      | none => .error (.wrongType scalar.toJson (.integer range)) := by
  cases scalar with
  | float x =>
    rw [toJson, Json.Number.ofBinary64?]
    by_cases finite : x.isFinite = true
    · rw [dif_pos finite]
      rfl
    · rw [dif_neg finite]
      rfl
  | null | bool | signed | unsigned | text => rfl

end Scalar

namespace Row

/-- The integer that the last scalar of the column is. -/
def lastInteger? (row : Row) (column : String) : Option Int :=
  (row.last? column).bind Scalar.integer?

end Row

namespace Visit

/-! ## What a visit asks of a row -/

/-- The range that a column of a visit has to be of. -/
def range? (column : String) : Option Json.IntegerRange :=
  if column = "date" then some .unsigned64
  else if column = "count" then some .unsigned32
  else none

/-- Why the last scalar of the column does not fit, if it does not. -/
def offence? (row : Row) (column : String) : Option Json.Mismatch :=
  (range? column).bind fun range => (row.last? column).bind fun scalar => scalar.offence? range

/-- The first of the two columns that the row does not give. -/
def missing? (row : Row) : Option Json.Mismatch :=
  ["date", "count"].findSome? fun column =>
    match row.last? column with
    | some _ => none
    | none => some (.missingField column)

/-- What the row is blamed for, if it is no visit. -/
def blame? (row : Row) : Option Json.Mismatch :=
  (row.columns.findSome? (offence? row)).or (missing? row)

/-- The row reads as the visit. -/
structure Reads (row : Row) (visit : Visit) : Prop where
  date : row.lastInteger? "date" = some (visit.date.toNat : Int)
  count : row.lastInteger? "count" = some (visit.count.toNat : Int)

/-- The last scalars of the two columns are integers of the two ranges. -/
structure Readable (row : Row) : Prop where
  date : ∃ n, row.lastInteger? "date" = some n ∧ 0 ≤ n ∧ n ≤ 2 ^ 64 - 1
  count : ∃ n, row.lastInteger? "count" = some n ∧ 0 ≤ n ∧ n ≤ 2 ^ 32 - 1

theorem readable_iff {row : Row} : Readable row ↔ ∃ visit, Reads row visit := by
  constructor
  · rintro ⟨⟨date, dated, least, most⟩, ⟨count, counted, fewest, largest⟩⟩
    have small : date.toNat < UInt64.size := by
      show date.toNat < 2 ^ 64
      omega
    have few : count.toNat < UInt32.size := by
      show count.toNat < 2 ^ 32
      omega
    refine ⟨⟨UInt64.ofNat date.toNat, UInt32.ofNat count.toNat⟩, ?_, ?_⟩
    · rw [dated, UInt64.toNat_ofNat_of_lt' small, Int.toNat_of_nonneg least]
    · rw [counted, UInt32.toNat_ofNat_of_lt' few, Int.toNat_of_nonneg fewest]
  · rintro ⟨visit, dated, counted⟩
    have most := visit.date.toNat_lt
    have largest := visit.count.toNat_lt
    exact ⟨⟨_, dated, by omega, by omega⟩, ⟨_, counted, by omega, by omega⟩⟩

/-! ## What the reader makes of a row -/

/-- A member offends if it is a column of the visit and no integer of the column's range. -/
theorem offence?_fields (column : String) (json : Json) :
    Field.offence? fields column json =
      (range? column).bind fun range => failure? (Json.Decoder.integer range json) := by
  rw [fields, Field.offence?_of_cons, Field.offence?_of_cons, range?]
  by_cases date : column = "date"
  · rw [if_pos date, if_pos date.symm]
    rfl
  · rw [if_neg date, if_neg (Ne.symm date)]
    by_cases count : column = "count"
    · rw [if_pos count, if_pos count.symm]
      rfl
    · rw [if_neg count, if_neg (Ne.symm count)]
      rfl

theorem offence?_members (row : Row) :
    row.members.findSome? (fun member => Field.offence? fields member.1 member.2) =
      row.columns.findSome? (offence? row) := by
  rw [row.findSome?_members]
  congr
  funext column
  rw [offence?]
  cases row.last? column with
  | none => cases range? column <;> rfl
  | some scalar =>
    rw [Option.bind_some, offence?_fields]
    congr
    funext range
    rw [scalar.decode_integer_toJson, Option.bind_some, Scalar.offence?]
    cases scalar.integer? with
    | none => rfl
    | some n =>
      dsimp only
      split <;> rfl

/-- A column that is given and does not offend ends in an integer of its range. -/
theorem holds_of_offence? {row : Row} {column : String} {range : Json.IntegerRange}
    {scalar : Scalar} (ranged : range? column = some range)
    (last : row.last? column = some scalar) (fit : offence? row column = none) :
    ∃ n, row.lastInteger? column = some n ∧ range.holds n = true := by
  rw [offence?, ranged, last, Option.bind_some, Option.bind_some, Scalar.offence?] at fit
  rw [Row.lastInteger?, last, Option.bind_some]
  cases whole : scalar.integer? with
  | none =>
    rw [whole] at fit
    cases fit
  | some n =>
    rw [whole] at fit
    dsimp only at fit
    split at fit
    · next holds => exact ⟨n, rfl, holds⟩
    · cases fit

theorem offence?_of_holds {row : Row} {column : String} {range : Json.IntegerRange} {n : Int}
    (ranged : range? column = some range) (whole : row.lastInteger? column = some n)
    (holds : range.holds n = true) : offence? row column = none := by
  obtain ⟨scalar, last, integer⟩ := Option.bind_eq_some_iff.mp whole
  simp only [offence?, ranged, last, Scalar.offence?, integer, holds, Option.bind_some, if_true]

/-- If none of the row's columns offends, then no column does. -/
theorem offence?_of_search {row : Row} (search : row.columns.findSome? (offence? row) = none)
    (column : String) : offence? row column = none := by
  by_cases given : column ∈ row.columns
  · exact List.findSome?_eq_none_iff.mp search column given
  · have nothing : row.last? column = none := Entries.last?_eq_none_iff.mpr given
    rw [offence?, nothing]
    cases range? column <;> rfl

theorem part_date : Field.Part fields "date" Known.date fun json =>
    (Json.Decoder.integer .unsigned64 json).toOption.map fun n => UInt64.ofNat n.toNat where
  sets known json fit := by
    rw [offence?_fields] at fit
    obtain ⟨n, taken⟩ := failure?_eq_none.mp fit
    rw [fields, Field.learn_of_cons, if_pos rfl, taken]
    rfl
  keeps known other json apart := by
    rw [fields, Field.learn_of_cons, if_neg (Ne.symm apart), Field.learn_of_cons]
    split
    · cases Json.Decoder.integer .unsigned32 json <;> rfl
    · rfl

theorem part_count : Field.Part fields "count" Known.count fun json =>
    (Json.Decoder.integer .unsigned32 json).toOption.map fun n => UInt32.ofNat n.toNat where
  sets known json fit := by
    have apart : "date" ≠ "count" := by decide
    rw [offence?_fields] at fit
    obtain ⟨n, taken⟩ := failure?_eq_none.mp fit
    rw [fields, Field.learn_of_cons, if_neg apart, Field.learn_of_cons, if_pos rfl, taken]
    rfl
  keeps known other json apart := by
    rw [fields, Field.learn_of_cons]
    split
    · cases Json.Decoder.integer .unsigned64 json <;> rfl
    · rw [Field.learn_of_cons, if_neg (Ne.symm apart)]
      rfl

/-- A column that does not offend is known by the integer that its last scalar is. -/
theorem known_column {row : Row} {column : String} {range : Json.IntegerRange} {α : Type}
    (convert : Int → α) (ranged : range? column = some range) (fit : offence? row column = none) :
    ((row.members.last? column).map fun json =>
        (Json.Decoder.integer range json).toOption.map convert).getD none =
      (row.lastInteger? column).map convert := by
  rw [row.last?_members, Row.lastInteger?]
  cases last : row.last? column with
  | none => rfl
  | some scalar =>
    obtain ⟨n, whole, holds⟩ := holds_of_offence? ranged last fit
    rw [Row.lastInteger?, last, Option.bind_some] at whole
    have taken : Json.Decoder.integer range scalar.toJson = .ok n := by
      rw [scalar.decode_integer_toJson, whole]
      exact if_pos holds
    simp [whole, taken, Except.toOption]

/-- The reader stops at the first column that offends, and otherwise knows both columns. -/
theorem readMembers_members (row : Row) :
    Field.readMembers fields ⟨none, none⟩ row.members =
      match row.columns.findSome? (offence? row) with
      | some cause => .error cause
      | none => .ok
        { date := (row.lastInteger? "date").map fun n => UInt64.ofNat n.toNat
          count := (row.lastInteger? "count").map fun n => UInt32.ofNat n.toNat } := by
  have search := offence?_members row
  rw [Field.readMembers_eq row.nodup_names_members, search]
  cases first : row.columns.findSome? (offence? row) with
  | some cause => rfl
  | none =>
    rw [first] at search
    have fit := offence?_of_search first
    have members := List.findSome?_eq_none_iff.mp search
    have date := part_date.foldl_learn members ⟨none, none⟩
    have count := part_count.foldl_learn members ⟨none, none⟩
    rw [known_column _ rfl (fit "date")] at date
    rw [known_column _ rfl (fit "count")] at count
    dsimp only
    rw [← date, ← count]

/-! ## Which rows are visits, and what the others are blamed for -/

theorem ofMembers_of_blame {row : Row} {cause : Json.Mismatch} (blamed : blame? row = some cause) :
    ofMembers row.members = .error cause := by
  rw [blame?] at blamed
  rw [ofMembers, readMembers_members]
  cases search : row.columns.findSome? (offence? row) with
  | some first =>
    rw [search] at blamed
    cases blamed
    rfl
  | none =>
    rw [search, Option.none_or, missing?] at blamed
    have fit := offence?_of_search search
    cases date : row.last? "date" with
    | none =>
      rw [List.findSome?_cons, date] at blamed
      cases blamed
      rw [Row.lastInteger?, date]
      rfl
    | some scalar =>
      obtain ⟨n, dated, -⟩ := holds_of_offence? rfl date (fit "date")
      cases count : row.last? "count" with
      | none =>
        rw [List.findSome?_cons, date, List.findSome?_cons, count] at blamed
        cases blamed
        rw [dated, Row.lastInteger?, count]
        rfl
      | some other =>
        rw [List.findSome?_cons, date, List.findSome?_cons, count] at blamed
        cases blamed

/-- A row that nothing is blamed on gives both columns an integer of their range. -/
theorem readable_of_blame? {row : Row} (clean : blame? row = none) : Readable row := by
  obtain ⟨search, given⟩ := Option.or_eq_none_iff.mp clean
  have column : ∀ name ∈ ["date", "count"], ∀ range, range? name = some range →
      ∃ n, row.lastInteger? name = some n ∧ range.holds n = true := by
    intro name asked range ranged
    have there := List.findSome?_eq_none_iff.mp given name asked
    cases last : row.last? name with
    | none =>
      rw [last] at there
      cases there
    | some scalar => exact holds_of_offence? ranged last (offence?_of_search search name)
  obtain ⟨date, dated, inside⟩ := column "date" (by decide) _ rfl
  obtain ⟨count, counted, within⟩ := column "count" (by decide) _ rfl
  obtain ⟨least, most⟩ := Json.IntegerRange.holds_iff.mp inside
  obtain ⟨fewest, largest⟩ := Json.IntegerRange.holds_iff.mp within
  exact ⟨⟨date, dated, least, most⟩, ⟨count, counted, fewest, largest⟩⟩

theorem search_of_reads {row : Row} {visit : Visit} (reads : Reads row visit) :
    row.columns.findSome? (offence? row) = none := by
  refine List.findSome?_eq_none_iff.mpr fun column _ => ?_
  by_cases date : column = "date"
  · subst date
    have most := visit.date.toNat_lt
    refine offence?_of_holds rfl reads.date (Json.IntegerRange.holds_iff.mpr ⟨?_, ?_⟩)
    · exact Int.natCast_nonneg _
    · show _ ≤ (0xFFFFFFFFFFFFFFFF : Int)
      omega
  · by_cases count : column = "count"
    · subst count
      have most := visit.count.toNat_lt
      refine offence?_of_holds rfl reads.count (Json.IntegerRange.holds_iff.mpr ⟨?_, ?_⟩)
      · exact Int.natCast_nonneg _
      · show _ ≤ (0xFFFFFFFF : Int)
        omega
    · rw [offence?, range?, if_neg date, if_neg count]
      rfl

theorem ofMembers_of_reads {row : Row} {visit : Visit} (reads : Reads row visit) :
    ofMembers row.members = .ok visit := by
  have date : UInt64.ofNat (visit.date.toNat : Int).toNat = visit.date := UInt64.ofNat_toNat
  have count : UInt32.ofNat (visit.count.toNat : Int).toNat = visit.count := UInt32.ofNat_toNat
  rw [ofMembers, readMembers_members, search_of_reads reads, reads.date, reads.count]
  dsimp only [Option.map_some]
  rw [date, count]
  rfl

/-- **A row is read as the visit that its two columns give.** -/
theorem ofMembers_eq_ok {row : Row} {visit : Visit} :
    OfRow.ofMembers row.members = .ok visit ↔ Reads row visit := by
  show ofMembers row.members = .ok visit ↔ Reads row visit
  constructor
  · intro taken
    cases blamed : blame? row with
    | some cause =>
      rw [ofMembers_of_blame blamed] at taken
      cases taken
    | none =>
      obtain ⟨other, reads⟩ := readable_iff.mp (readable_of_blame? blamed)
      rw [ofMembers_of_reads reads] at taken
      cases taken
      exact reads
  · exact ofMembers_of_reads

/-- **Any other row is refused for what it is blamed for.** -/
theorem ofMembers_eq_error {row : Row} {cause : Json.Mismatch} :
    (OfRow.ofMembers row.members : Except Json.Mismatch Visit) = .error cause ↔
      blame? row = some cause := by
  show ofMembers row.members = .error cause ↔ blame? row = some cause
  constructor
  · intro refused
    cases blamed : blame? row with
    | some other =>
      rw [ofMembers_of_blame blamed] at refused
      cases refused
      rfl
    | none =>
      obtain ⟨visit, reads⟩ := readable_iff.mp (readable_of_blame? blamed)
      rw [ofMembers_of_reads reads] at refused
      cases refused
  · exact ofMembers_of_blame

/-- The two columns alone decide what visit a row is. -/
theorem reads_congr {row other : Row} (dates : row.last? "date" = other.last? "date")
    (counts : row.last? "count" = other.last? "count") (visit : Visit) :
    Reads row visit ↔ Reads other visit := by
  have date : row.lastInteger? "date" = other.lastInteger? "date" := by
    rw [Row.lastInteger?, Row.lastInteger?, dates]
  have count : row.lastInteger? "count" = other.lastInteger? "count" := by
    rw [Row.lastInteger?, Row.lastInteger?, counts]
  constructor
  · exact fun reads => ⟨date.symm.trans reads.date, count.symm.trans reads.count⟩
  · exact fun reads => ⟨date.trans reads.date, count.trans reads.count⟩

theorem blame?_eq_none_iff {row : Row} : blame? row = none ↔ Readable row := by
  constructor
  · exact readable_of_blame?
  · intro readable
    obtain ⟨visit, reads⟩ := readable_iff.mp readable
    cases blamed : blame? row with
    | none => rfl
    | some cause =>
      have refused := ofMembers_of_blame blamed
      rw [ofMembers_of_reads reads] at refused
      cases refused

/-- No row is blamed for a repetition. -/
theorem blame?_ne_duplicateField (row : Row) (name : String) :
    blame? row ≠ some (.duplicateField name) := by
  intro blamed
  rcases Option.or_eq_some_iff.mp blamed with offends | ⟨-, absent⟩
  · obtain ⟨column, -, found⟩ := List.exists_of_findSome?_eq_some offends
    obtain ⟨range, -, unfit⟩ := Option.bind_eq_some_iff.mp found
    obtain ⟨scalar, -, other⟩ := Option.bind_eq_some_iff.mp unfit
    rw [Scalar.offence?] at other
    split at other
    · split at other <;> cases other
    · cases other
  · obtain ⟨column, -, found⟩ := List.exists_of_findSome?_eq_some absent
    split at found <;> cases found

end Visit

namespace Outcome

theorem decode_visits_eq_ok {rows : List Row} {visits : List Visit} :
    (Outcome.rows rows).decode Visit = .ok visits ↔ List.Forall₂ Visit.Reads rows visits := by
  rw [decode_rows_eq_mapM, mapM_eq_ok]
  simp only [mapError_eq_ok, Visit.ofMembers_eq_ok]

theorem exists_decode_visits_iff {rows : List Row} :
    (∃ visits, (Outcome.rows rows).decode Visit = .ok visits) ↔
      ∀ row ∈ rows, Visit.Readable row := by
  rw [decode_rows_eq_mapM, exists_mapM_eq_ok]
  simp only [mapError_eq_ok, Visit.ofMembers_eq_ok, Visit.readable_iff]

/-- The first row that is no visit tells the error, whatever comes after it. -/
theorem decode_visits_eq_error {rows : List Row} {error : Error} :
    (Outcome.rows rows).decode Visit = .error error ↔
      ∃ before row after cause, rows = before ++ row :: after ∧
        (∀ earlier ∈ before, Visit.Readable earlier) ∧
        Visit.blame? row = some cause ∧ error = .mismatch cause := by
  have each : ∀ (row : Row) (error : Error),
      (OfRow.ofMembers row.members : Except Json.Mismatch Visit).mapError .mismatch =
        .error error ↔
      (Visit.blame? row).map Error.mismatch = some error := by
    intro row error
    rw [mapError_eq_error, Option.map_eq_some_iff]
    simp only [Visit.ofMembers_eq_error]
  rw [decode_rows_eq_mapM, mapM_eq_error each, List.findSome?_eq_some_iff]
  simp only [Option.map_eq_some_iff, Option.map_eq_none_iff, Visit.blame?_eq_none_iff]
  constructor
  · rintro ⟨before, row, after, same, ⟨cause, blamed, told⟩, earlier⟩
    exact ⟨before, row, after, cause, same, earlier, blamed, told.symm⟩
  · rintro ⟨before, row, after, cause, same, earlier, blamed, told⟩
    exact ⟨before, row, after, same, ⟨cause, blamed, told.symm⟩, earlier⟩

theorem decode_visits_congr {rows others : List Row}
    (alike : List.Forall₂ (fun row other => row.last? "date" = other.last? "date" ∧
      row.last? "count" = other.last? "count") rows others) (visits : List Visit) :
    List.Forall₂ Visit.Reads rows visits ↔ List.Forall₂ Visit.Reads others visits := by
  induction alike generalizing visits with
  | nil => rfl
  | cons same _ ih =>
    rw [List.forall₂_cons_left_iff, List.forall₂_cons_left_iff]
    simp only [Visit.reads_congr same.1 same.2, ih]

theorem decode_visits_ne_duplicateField (outcome : Outcome) (name : String) :
    outcome.decode Visit ≠ .error (.mismatch (.duplicateField name)) := by
  intro refused
  cases outcome with
  | success => cases refused
  | failure code => cases refused
  | rows rows =>
    obtain ⟨_, row, _, cause, -, -, blamed, told⟩ := decode_visits_eq_error.mp refused
    cases told
    exact Visit.blame?_ne_duplicateField row name blamed

/-- **Rows are read as visits exactly, and the right place is blamed.** The rows are visits if the
last date and the last count of each are integers of their ranges; the visits list these integers,
and nothing else in the rows plays a part. Otherwise the first row that is no visit tells the
error, and of that row the first column whose last scalar does not fit, before a missing column. -/
theorem decode_visits :
    (∀ rows visits, (Outcome.rows rows).decode Visit = .ok visits ↔
      List.Forall₂ Visit.Reads rows visits) ∧
    (∀ rows, (∃ visits, (Outcome.rows rows).decode Visit = .ok visits) ↔
      ∀ row ∈ rows, Visit.Readable row) ∧
    (∀ rows others, List.Forall₂ (fun row other => row.last? "date" = other.last? "date" ∧
        row.last? "count" = other.last? "count") rows others →
      ∀ visits, (Outcome.rows rows).decode Visit = .ok visits ↔
        (Outcome.rows others).decode Visit = .ok visits) ∧
    (∀ rows error, (Outcome.rows rows).decode Visit = .error error ↔
      ∃ before row after cause, rows = before ++ row :: after ∧
        (∀ earlier ∈ before, Visit.Readable earlier) ∧
        Visit.blame? row = some cause ∧ error = .mismatch cause) ∧
    (∀ (outcome : Outcome) name, outcome.decode Visit ≠ .error (.mismatch (.duplicateField name))) ∧
    Outcome.success.decode Visit = .ok [] ∧
    ∀ code, (Outcome.failure code).decode Visit = .error (.executionFailed code) := by
  refine ⟨fun _ _ => decode_visits_eq_ok, fun _ => exists_decode_visits_iff, ?_,
    fun _ _ => decode_visits_eq_error, decode_visits_ne_duplicateField, rfl, fun _ => rfl⟩
  intro rows others alike visits
  rw [decode_visits_eq_ok, decode_visits_eq_ok]
  exact decode_visits_congr alike visits

/-- A visit whose first date is a text, with a column that is no number. -/
def redated : Row :=
  ⟨[("date", .text "today"), ("ratio", .float ⟨0x7ff8000000000000⟩), ("count", .signed 7),
    ("date", .unsigned 18446744073709551615)]⟩

/-- The same visit, without what does not matter. -/
def plain : Row := ⟨[("count", .signed 7), ("date", .unsigned 18446744073709551615)]⟩

/-- A row whose count comes first and is too large in the end, and whose date is null. -/
def overcounted : Row :=
  ⟨[("count", .signed 7), ("date", .null), ("count", .signed 4294967296)]⟩

/-- A row without a date whose count is no integer. -/
def undated : Row := ⟨[("count", .float ⟨0x7ff8000000000000⟩)]⟩

theorem decode_visits_redated :
    (Outcome.rows [redated, redated]).decode Visit =
        .ok [⟨18446744073709551615, 7⟩, ⟨18446744073709551615, 7⟩] ∧
      (Outcome.rows [plain]).decode Visit = .ok [⟨18446744073709551615, 7⟩] ∧
      (Outcome.rows [redated, overcounted, undated]).decode Visit =
        .error (.mismatch (.outOfRange 4294967296 .unsigned32)) ∧
      (Outcome.rows [undated]).decode Visit =
        .error (.mismatch (.wrongType .null (.integer .unsigned32))) ∧
      (Outcome.rows [⟨[("ratio", .null)]⟩]).decode Visit =
        .error (.mismatch (.missingField "date")) := by
  obtain ⟨reads, readable, alike, errors, -⟩ := decode_visits
  have visit : Visit.Reads redated ⟨18446744073709551615, 7⟩ := ⟨by decide, by decide⟩
  have same : List.Forall₂ (fun row other : Row => row.last? "date" = other.last? "date" ∧
      row.last? "count" = other.last? "count") [redated] [plain] := .cons ⟨rfl, rfl⟩ .nil
  have once := (reads [redated] [⟨18446744073709551615, 7⟩]).mpr (.cons visit .nil)
  refine ⟨(reads _ _).mpr (.cons visit (.cons visit .nil)), (alike _ _ same _).mp once, ?_, ?_, ?_⟩
  · refine (errors _ _).mpr ⟨[redated], overcounted, [undated], _, rfl, ?_, rfl, rfl⟩
    exact (readable [redated]).mp ⟨_, once⟩
  · exact (errors _ _).mpr ⟨[], undated, [], _, rfl, List.forall_mem_nil _, rfl, rfl⟩
  · exact (errors _ _).mpr ⟨[], _, [], _, rfl, List.forall_mem_nil _, rfl, rfl⟩

end Outcome

end Statements
