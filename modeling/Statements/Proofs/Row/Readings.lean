import Statements.Proofs.Json.Object
import Statements.Proofs.Row.RoundTrip

/-!
# Three ways to read a row

A row can be read from a JSON value by looking at its kind, from a JSON value by trying kinds in
turn, and straight from the text. The first two agree on every JSON value, because they agree on
every value that a member can have (`Scalar.ofJson_eq_ok_iff`).

The third sees more than they do. It reads the members as they are written, so a repeated column
stands in the row as often as in the text, and a member that a later one replaces is read all the
same. So what it reads collapses to what the others read, but it may refuse what they take: a
member with parts, behind which the same name stands with a scalar. Where no name is repeated, the
difference is gone. All of it follows from one description of each reading in terms of
`Json.writtenMembers` (`Row.parse_eq_ok`, `Row.ofJsonText_eq_ok`).
-/

namespace Statements

namespace Scalar

/-- An integer is asked for the signed range first, and the unsigned range holds the others. -/
theorem ofJson_integer (n : Json.Integer) :
    ofJson (.number (.integer n)) = .ok
      (if n.val < 0x8000000000000000 then .signed (Int64.ofInt n.val)
        else .unsigned (UInt64.ofNat n.val.toNat)) := by
  by_cases small : n.val < 0x8000000000000000
  · simp only [ofJson, ofNumber, Json.Number.signed?, if_pos small]
  · have above : 0 ≤ n.val := Int.le_trans (by decide) (Int.not_lt.mp small)
    simp only [ofJson, ofNumber, Json.Number.signed?, Json.Number.unsigned?, if_neg small,
      if_pos above]

/-- **The two readings of a JSON value as a scalar agree.** -/
theorem ofJson_eq_ok_iff {json : Json} {scalar : Scalar} :
    ofJson json = .ok scalar ↔ decode json = .ok scalar := by
  cases json with
  | number n =>
    cases n with
    | integer n => rw [decode_integer, ofJson_integer, Except.ok.injEq, Except.ok.injEq]
    | float x finite =>
      have tried : decode (.number (.float x finite)) = .ok (.float x) := rfl
      have checked : ofJson (.number (.float x finite)) = .ok (.float x) := rfl
      rw [tried, checked, Except.ok.injEq, Except.ok.injEq]
  | array | object =>
    constructor <;>
    · intro taken
      cases taken
  | null | bool | string =>
    constructor <;>
    · intro taken
      cases taken
      rfl

theorem reader_eq_ok {depth : Nat} {text rest : List Char} {scalar : Scalar} :
    reader depth text = .ok (scalar, rest) ↔
      ∃ json, Json.Reader.value depth text = .ok (json, rest) ∧ decode json = .ok scalar := by
  constructor
  · intro taken
    obtain ⟨⟨json, left⟩, read, decoded⟩ := bind_eq_ok.mp taken
    dsimp only at decoded
    split at decoded
    · next tried =>
      cases decoded
      exact ⟨json, read, tried⟩
    · cases decoded
  · rintro ⟨json, read, tried⟩
    refine bind_eq_ok.mpr ⟨(json, rest), read, ?_⟩
    dsimp only
    rw [tried]

/-- A scalar of a text is the scalar of its JSON value. -/
theorem parse_eq_ok {text : String} {scalar : Scalar} :
    parse text = .ok scalar ↔ ∃ json, Json.parse text = .ok json ∧ decode json = .ok scalar := by
  rw [parse, Json.Reader.wholeText_eq_ok]
  constructor
  · rintro ⟨rest, taken, blank⟩
    obtain ⟨json, read, tried⟩ := reader_eq_ok.mp taken
    exact ⟨json, Json.Reader.wholeText_eq_ok.mpr ⟨rest, read, blank⟩, tried⟩
  · rintro ⟨json, parsed, tried⟩
    obtain ⟨rest, read, blank⟩ := Json.Reader.wholeText_eq_ok.mp parsed
    exact ⟨rest, reader_eq_ok.mpr ⟨json, read, tried⟩, blank⟩

end Scalar

namespace Row

/-- Every column once, at its first position, with its last scalar. -/
def collapsed (row : Row) : Row := ⟨row.entries.collapse⟩

/-- The last scalar given to the column. -/
def last? (row : Row) (column : String) : Option Scalar := row.entries.last? column

theorem columns_collapsed (row : Row) : row.collapsed.columns = row.columns.eraseDups :=
  row.entries.names_collapse

theorem get?_collapsed (row : Row) (column : String) :
    row.collapsed.get? column = row.last? column :=
  row.entries.first?_collapse column

/-! ## What each reading answers -/

/-- The values of members and the scalars that they are tried as. -/
def Decoded : Entries Json → Entries Scalar → Prop :=
  Entries.Related fun json scalar => Scalar.decode json = .ok scalar

theorem ofMembers_eq_ok {ε : Type} {scalar : Json → Except ε Scalar} {members : Entries Json}
    {row : Row} :
    ofMembers scalar members = .ok row ↔
      Entries.Related (fun json value => scalar json = .ok value) members row.entries := by
  have entry : ∀ (member : String × Json) (answer : String × Scalar),
      (do return (member.1, ← scalar member.2) : Except ε (String × Scalar)) = .ok answer ↔
        member.1 = answer.1 ∧ scalar member.2 = .ok answer.2 := by
    rintro ⟨name, json⟩ ⟨column, value⟩
    cases scalar json <;> simp [bind, Except.bind, pure, Except.pure]
  constructor
  · intro taken
    obtain ⟨entries, read, done⟩ := bind_eq_ok.mp taken
    cases done
    exact (mapM_eq_ok.mp read).imp fun member answer => (entry member answer).mp
  · intro related
    refine bind_eq_ok.mpr ⟨row.entries, mapM_eq_ok.mpr ?_, rfl⟩
    exact related.imp fun member answer => (entry member answer).mpr

theorem decode_eq_ok {json : Json} {row : Row} :
    decode json = .ok row ↔ ∃ members, json = .object members ∧ Decoded members row.entries := by
  cases json with
  | object members =>
    rw [decode, ofMembers_eq_ok]
    constructor
    · exact fun related => ⟨members, rfl, related⟩
    · rintro ⟨_, same, related⟩
      cases same
      exact related
  | null | bool | number | string | array =>
    constructor
    · intro taken
      cases taken
    · rintro ⟨_, other, -⟩
      cases other

/-- **The two readings of a JSON value as a row agree.** -/
theorem ofJson_eq_ok_iff {json : Json} {row : Row} :
    ofJson json = .ok row ↔ decode json = .ok row := by
  cases json with
  | object members =>
    rw [ofJson, decode, ofMembers_eq_ok, ofMembers_eq_ok]
    simp only [Scalar.ofJson_eq_ok_iff]
  | null | bool | number | string | array =>
    constructor <;>
    · intro taken
      cases taken

theorem ofJsonText_eq_ok {text : String} {row : Row} :
    ofJsonText text = .ok row ↔ ∃ json, Json.parse text = .ok json ∧ ofJson json = .ok row := by
  rw [ofJsonText, Json.ofText]
  cases Json.parse text with
  | error fault =>
    constructor
    · intro taken
      cases taken
    · rintro ⟨_, same, -⟩
      cases same
  | ok json =>
    constructor
    · exact fun taken => ⟨json, rfl, taken⟩
    · rintro ⟨_, same, taken⟩
      cases same
      exact taken

theorem reader_eq_ok {text rest : List Char} {row : Row} :
    reader text = .ok (row, rest) ↔
      Json.Reader.object (Scalar.reader (Json.maxDepth - 1)) text = .ok (row.entries, rest) := by
  by_cases brace : ∃ behind, Json.Reader.skipBlank text = '{' :: behind
  · obtain ⟨behind, front⟩ := brace
    rw [Json.Reader.object_of_brace front, reader, front]
    constructor
    · intro taken
      obtain ⟨⟨entries, left⟩, read, done⟩ := map_eq_ok.mp taken
      cases done
      exact read
    · exact fun read => map_eq_ok.mpr ⟨(row.entries, rest), read, rfl⟩
  · have other := not_exists.mp brace
    rw [Json.Reader.object_of_no_brace other]
    constructor
    · intro taken
      unfold reader at taken
      split at taken
      · next behind front => exact absurd front (other behind)
      · cases taken
      · obtain ⟨found, -, refused⟩ := bind_eq_ok.mp taken
        cases refused
    · intro taken
      cases taken

/-- Straight from the text, the members are read as they are written. -/
theorem parse_eq_ok {text : String} {row : Row} :
    parse text = .ok row ↔
      ∃ written, Json.writtenMembers text = .ok written ∧ Decoded written row.entries := by
  have scalars : Json.Reader.Refines (fun json scalar => Scalar.decode json = .ok scalar)
      (Scalar.reader (Json.maxDepth - 1)) (Json.Reader.value (Json.maxDepth - 1)) :=
    fun _ _ _ => Scalar.reader_eq_ok
  rw [parse, Json.Reader.wholeText_eq_ok]
  constructor
  · rintro ⟨rest, taken, blank⟩
    obtain ⟨written, read, decoded⟩ := (scalars.object _ _ _).mp (reader_eq_ok.mp taken)
    exact ⟨written, Json.Reader.wholeText_eq_ok.mpr ⟨rest, read, blank⟩, decoded⟩
  · rintro ⟨written, writes, decoded⟩
    obtain ⟨rest, read, blank⟩ := Json.Reader.wholeText_eq_ok.mp writes
    exact ⟨rest, reader_eq_ok.mpr ((scalars.object _ _ _).mpr ⟨written, read, decoded⟩), blank⟩

/-- By way of its JSON value, a text is read as its members collapsed. -/
theorem ofJsonText_eq_ok_iff_collapse {text : String} {row : Row} :
    ofJsonText text = .ok row ↔
      ∃ written, Json.writtenMembers text = .ok written ∧
        Decoded written.collapse row.entries := by
  rw [ofJsonText_eq_ok]
  constructor
  · rintro ⟨json, parsed, taken⟩
    obtain ⟨members, rfl, decoded⟩ := decode_eq_ok.mp (ofJson_eq_ok_iff.mp taken)
    obtain ⟨written, writes, rfl⟩ := Json.parse_eq_object.mp parsed
    exact ⟨written, writes, decoded⟩
  · rintro ⟨written, writes, decoded⟩
    exact ⟨.object written.collapse, Json.parse_eq_object.mpr ⟨written, writes, rfl⟩,
      ofJson_eq_ok_iff.mpr (decode_eq_ok.mpr ⟨_, rfl, decoded⟩)⟩

/-! ## How the readings compare -/

/-- What is read straight from the text collapses to what is read from the JSON value. -/
theorem collapsed_of_parse {text : String} {row : Row} (parsed : parse text = .ok row) :
    ∃ json, Json.parse text = .ok json ∧ ofJson json = .ok row.collapsed ∧
      decode json = .ok row.collapsed := by
  obtain ⟨written, writes, decoded⟩ := parse_eq_ok.mp parsed
  have object : Json.parse text = .ok (.object written.collapse) :=
    Json.parse_eq_object.mpr ⟨written, writes, rfl⟩
  have tried : decode (.object written.collapse) = .ok row.collapsed :=
    decode_eq_ok.mpr ⟨written.collapse, rfl, decoded.collapse⟩
  exact ⟨_, object, ofJson_eq_ok_iff.mpr tried, tried⟩

/-- Without a repeated name there is nothing to collapse. -/
theorem parse_eq_ok_iff_ofJsonText {text : String}
    (nodup : ∀ written, Json.writtenMembers text = .ok written → written.names.Nodup)
    (row : Row) : parse text = .ok row ↔ ofJsonText text = .ok row := by
  rw [parse_eq_ok, ofJsonText_eq_ok_iff_collapse]
  refine exists_congr fun written => and_congr_right fun writes => ?_
  rw [Entries.collapse_of_nodup (nodup written writes)]

/-- **The readings of a row agree.** From a JSON value a row is read in the same way twice, and so
is a scalar from a text. What is read straight from a text collapses to what is read from its JSON
value, each column once, at its first position and with its last scalar; and where the text repeats
no name, one reading answers what the other does. -/
theorem readings_agree :
    (∀ json row, ofJson json = .ok row ↔ decode json = .ok row) ∧
      (∀ text scalar, Scalar.parse text = .ok scalar ↔
        ∃ json, Json.parse text = .ok json ∧ Scalar.ofJson json = .ok scalar) ∧
      (∀ text row, parse text = .ok row → ∃ json, Json.parse text = .ok json ∧
        ofJson json = .ok row.collapsed ∧ decode json = .ok row.collapsed) ∧
      (∀ row : Row, row.collapsed.columns = row.columns.eraseDups ∧
        ∀ column, row.collapsed.get? column = row.last? column) ∧
      ∀ text, (∀ written, Json.writtenMembers text = .ok written → written.names.Nodup) →
        ∀ row, parse text = .ok row ↔ ofJsonText text = .ok row := by
  refine ⟨fun _ _ => ofJson_eq_ok_iff, fun text scalar => ?_, fun _ _ => collapsed_of_parse,
    fun row => ⟨row.columns_collapsed, row.get?_collapsed⟩,
    fun _ => parse_eq_ok_iff_ofJsonText⟩
  simp only [Scalar.ofJson_eq_ok_iff]
  exact Scalar.parse_eq_ok

/-- An object that gives a column twice. -/
def repeating : String := "\x7b \"a\": null, \"b\": false, \"a\": \"x\" \x7d"

/-- An object that repeats no name. -/
def distinct : String := "\x7b\"b\": false, \"a\": null\x7d\n"

theorem readings_agree_repeating :
    parse repeating = .ok ⟨[("a", .null), ("b", .bool false), ("a", .text "x")]⟩ ∧
      (∃ json, Json.parse repeating = .ok json ∧
        ofJson json = .ok ⟨[("a", .text "x"), ("b", .bool false)]⟩ ∧
        decode json = .ok ⟨[("a", .text "x"), ("b", .bool false)]⟩) ∧
      (∀ written, Json.writtenMembers distinct = .ok written → written.names.Nodup) ∧
      parse distinct = .ok ⟨[("b", .bool false), ("a", .null)]⟩ ∧
      ofJsonText distinct = .ok ⟨[("b", .bool false), ("a", .null)]⟩ := by
  have parsed : parse repeating = .ok ⟨[("a", .null), ("b", .bool false), ("a", .text "x")]⟩ := by
    cbv
  have straight : parse distinct = .ok ⟨[("b", .bool false), ("a", .null)]⟩ := by cbv
  have nodup : ∀ written, Json.writtenMembers distinct = .ok written → written.names.Nodup := by
    have writes : Json.writtenMembers distinct = .ok [("b", .bool false), ("a", .null)] := by cbv
    intro written same
    rw [writes] at same
    cases same
    decide
  obtain ⟨-, -, collapses, -, agrees⟩ := readings_agree
  exact ⟨parsed, collapses _ _ parsed, nodup, straight, (agrees _ nodup _).mp straight⟩

end Row

end Statements
