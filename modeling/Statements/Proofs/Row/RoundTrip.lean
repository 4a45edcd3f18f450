import Statements.Proofs.Json.Value
import Statements.Row.Json

/-!
# Rows read back from their text

The text of a row does not show everything: an integer does not say which range it came from, and
a double that is not finite is written as null. `Scalar.normal` says what comes back instead. A
row that was written straight to text comes back with every entry in its place, repeated columns
included, and with the normal form of every scalar (`Row.parse_text`); so the round trip is the
identity on exactly the rows whose scalars are settled, and it settles all of them at once.
-/

namespace Statements

namespace Scalar

/-- What a scalar comes back as: an unsigned integer of the signed range as a signed one, and a
double that is not finite as null. -/
def normal : Scalar → Scalar
  | .unsigned n =>
    if n.toNat < 0x8000000000000000 then .signed (Int64.ofNat n.toNat) else .unsigned n
  | .float x => if x.isFinite then .float x else .null
  | scalar => scalar

/-- No unsigned integer below 2 ^ 63, and no infinite double or NaN. -/
def Settled : Scalar → Prop
  | .unsigned n => 0x8000000000000000 ≤ n.toNat
  | .float x => x.isFinite = true
  | _ => True

theorem normal_eq_self_iff {scalar : Scalar} : scalar.normal = scalar ↔ scalar.Settled := by
  cases scalar with
  | unsigned n =>
    by_cases small : n.toNat < 0x8000000000000000
    · simp [normal, Settled, small]
    · simp [normal, Settled, small, Nat.le_of_not_lt]
  | float x => by_cases finite : x.isFinite = true <;> simp [normal, Settled, finite]
  | null | bool | signed | text => simp [normal, Settled]

theorem settled_normal (scalar : Scalar) : scalar.normal.Settled := by
  cases scalar with
  | unsigned n =>
    by_cases small : n.toNat < 0x8000000000000000
    · simp [normal, Settled, small]
    · rw [normal, if_neg small]
      exact Nat.le_of_not_lt small
  | float x => by_cases finite : x.isFinite = true <;> simp [normal, Settled, finite]
  | null | bool | signed | text => simp [normal, Settled]

/-- An integer is tried as neither null nor a boolean, and then in the signed range first. -/
theorem decode_integer (n : Json.Integer) :
    decode (.number (.integer n)) = .ok
      (if n.val < 0x8000000000000000 then .signed (Int64.ofInt n.val)
        else .unsigned (UInt64.ofNat n.val.toNat)) := by
  obtain ⟨n, least, most⟩ := n
  by_cases small : n < 0x8000000000000000
  · have holds : Json.IntegerRange.signed64.holds n = true :=
      Json.IntegerRange.holds_iff.mpr ⟨least, Int.le_sub_one_of_lt small⟩
    simp [decode, kinds, Json.Decoder.boolean, Json.Decoder.integer, holds, small, Except.map,
      Except.toOption]
  · have above : 0x8000000000000000 ≤ n := Int.not_lt.mp small
    have outside : Json.IntegerRange.signed64.holds n = false := by
      refine Bool.eq_false_iff.mpr fun holds => small ?_
      exact Int.lt_of_le_sub_one (Json.IntegerRange.holds_iff.mp holds).2
    have holds : Json.IntegerRange.unsigned64.holds n = true := by
      refine Json.IntegerRange.holds_iff.mpr ⟨?_, Int.le_sub_one_of_lt most⟩
      exact Int.le_trans (by decide) above
    simp [decode, kinds, Json.Decoder.boolean, Json.Decoder.integer, holds, outside, small,
      Except.map, Except.toOption]

/-- The first kind that reads the JSON value of a scalar gives its normal form. -/
theorem decode_toJson (scalar : Scalar) : decode scalar.toJson = .ok scalar.normal := by
  cases scalar with
  | null => rfl
  | bool b => rfl
  | signed n =>
    have small : n.toInt < 0x8000000000000000 := n.toInt_lt
    rw [toJson, decode_integer, if_pos small, Int64.ofInt_toInt]
    rfl
  | unsigned n =>
    rw [toJson, decode_integer, normal]
    by_cases small : n.toNat < 0x8000000000000000
    · have below : (n.toNat : Int) < 0x8000000000000000 := Int.ofNat_lt.mpr small
      rw [if_pos small, if_pos below]
      rfl
    · have above : ¬ (n.toNat : Int) < 0x8000000000000000 := fun below =>
        small (Int.ofNat_lt.mp below)
      rw [if_neg small, if_neg above]
      exact congrArg (fun n => Except.ok (Scalar.unsigned n)) (UInt64.ofNat_toNat)
  | float x =>
    by_cases finite : x.isFinite = true
    · have number : Json.Number.ofBinary64? x = some (.float x finite) := dif_pos finite
      rw [toJson, number, normal, if_pos finite]
      rfl
    · have none : Json.Number.ofBinary64? x = none := dif_neg finite
      rw [toJson, none, normal, if_neg finite]
      rfl
  | text s => rfl

theorem isScalar_toJson (scalar : Scalar) : scalar.toJson.isScalar = true := by
  cases scalar with
  | float x =>
    rw [toJson]
    cases Json.Number.ofBinary64? x <;> rfl
  | null | bool | signed | unsigned | text => rfl

/-- A scalar comes back from its text in its normal form. -/
theorem readsBack_toJson (depth : Nat) (scalar : Scalar) :
    Json.Reader.ReadsBack (reader depth) scalar.toJson scalar.normal := by
  intro rest stops
  have read := Json.Reader.value_chars depth scalar.isScalar_toJson stops
  simp only [reader, read, decode_toJson, bind, Except.bind]

end Scalar

namespace Row

/-- Every scalar in its normal form, under the same columns in the same order. -/
def normal (row : Row) : Row := ⟨row.entries.mapValues Scalar.normal⟩

theorem columns_normal (row : Row) : row.normal.columns = row.columns := by
  simp [columns, normal, Entries.names, Entries.mapValues]

theorem scalars_normal (row : Row) : row.normal.scalars = row.scalars.map Scalar.normal := by
  simp [scalars, normal, Entries.mapValues]

theorem mapValues_normal_eq_self_iff {entries : Entries Scalar} :
    entries.mapValues Scalar.normal = entries ↔
      ∀ scalar ∈ entries.map Prod.snd, scalar.Settled := by
  induction entries with
  | nil => simp [Entries.mapValues]
  | cons entry entries ih =>
    obtain ⟨column, scalar⟩ := entry
    show (column, scalar.normal) :: Entries.mapValues Scalar.normal entries = _ ↔ _
    rw [List.cons.injEq, Prod.mk.injEq, ih, Scalar.normal_eq_self_iff, List.map_cons,
      List.forall_mem_cons]
    simp

/-- The rows that the normal form does not change. -/
theorem normal_eq_self_iff {row : Row} :
    row.normal = row ↔ ∀ scalar ∈ row.scalars, scalar.Settled := by
  obtain ⟨entries⟩ := row
  rw [normal, Row.mk.injEq]
  exact mapValues_normal_eq_self_iff

theorem normal_normal (row : Row) : row.normal.normal = row.normal := by
  apply normal_eq_self_iff.mpr
  intro scalar mem
  rw [scalars_normal] at mem
  obtain ⟨before, -, rfl⟩ := List.mem_map.mp mem
  exact before.settled_normal

theorem parse_text_eq (row : Row) : parse row.text = .ok row.normal := by
  have members : Json.Reader.members (Scalar.reader (Json.maxDepth - 1))
      (Json.membersChars (row.entries.mapValues Scalar.toJson) ++ ['}']) =
        .ok (row.entries.mapValues Scalar.normal, []) :=
    Json.Reader.members_chars (fun entry _ => entry.2.readsBack_toJson _) []
  have chars : row.text.toList =
      '{' :: (Json.membersChars (row.entries.mapValues Scalar.toJson) ++ ['}']) := by
    rw [text, Json.text, String.toList_ofList, Json.chars]
  have brace : ∀ rest, Json.Reader.skipBlank ('{' :: rest) = '{' :: rest := fun _ => rfl
  simp only [parse, Json.Reader.wholeText, chars, reader, brace, members, Except.map, bind,
    Except.bind]
  rfl

/-- **A row comes back from its text in its normal form**: every entry in its place, under its
column, repeated ones included. So it comes back as it was exactly if its scalars are settled, and
a second time nothing changes. -/
theorem parse_text (row : Row) :
    parse row.text = .ok row.normal ∧
      row.normal.columns = row.columns ∧
      row.normal.scalars = row.scalars.map Scalar.normal ∧
      (parse row.text = .ok row ↔ ∀ scalar ∈ row.scalars, scalar.Settled) ∧
      parse row.normal.text = .ok row.normal := by
  refine ⟨row.parse_text_eq, row.columns_normal, row.scalars_normal, ?_, ?_⟩
  · rw [parse_text_eq, Except.ok.injEq]
    exact normal_eq_self_iff
  · rw [parse_text_eq, normal_normal]

end Row

end Statements
