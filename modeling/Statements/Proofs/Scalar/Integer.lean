import Statements.Proofs.Json.Integer
import Statements.Proofs.Row.Readings

/-!
# One scalar for every integer

An integer reaches a scalar on four ways: converted from any integer type that holds it, optional or
not, taken from a JSON number, tried as the kinds of a JSON value, or read from its decimal text.
All of them end at `ofInteger`: the signed scalar if the signed range holds the integer, and the
unsigned one otherwise. What that scalar says is the integer again: its texts are the decimal text,
and equality of scalars is equality of integers.

The ways end at the two ranges. An integer outside both has no scalar of its own; its text is read
as the nearest double, and past the range of doubles it is not read. And since the signed range is
always asked first, no conversion and no reading makes an unsigned scalar of what it holds
(`SignedFirst`).
-/

namespace Statements

namespace Scalar

/-- The scalar of an integer: the signed range is preferred. -/
def ofInteger (n : Json.Integer) : Scalar :=
  if n.val < 0x8000000000000000 then .signed (Int64.ofInt n.val)
  else .unsigned (UInt64.ofNat n.val.toNat)

/-- The scalar holds the integer itself, in the first range that does. -/
theorem ofInteger_cases (n : Json.Integer) :
    (∃ i : Int64, i.toInt = n.val ∧ ofInteger n = .signed i) ∨
      ∃ u : UInt64, (u.toNat : Int) = n.val ∧ 0x8000000000000000 ≤ n.val ∧
        ofInteger n = .unsigned u := by
  obtain ⟨n, least, most⟩ := n
  by_cases small : n < 0x8000000000000000
  · exact .inl ⟨Int64.ofInt n, Int64.toInt_ofInt_of_le least small, if_pos small⟩
  · have above : 0x8000000000000000 ≤ n := Int.not_lt.mp small
    have fits : n.toNat < UInt64.size := by
      simp only [UInt64.size]
      omega
    have held : ((UInt64.ofNat n.toNat).toNat : Int) = n := by
      rw [UInt64.toNat_ofNat_of_lt' fits]
      omega
    exact .inr ⟨UInt64.ofNat n.toNat, held, above, if_neg small⟩

/-! ## What the scalar says -/

theorem bare_ofInteger (n : Json.Integer) : (ofInteger n).bare = toString n.val := by
  apply String.toList_injective
  rw [Json.toList_toString]
  rcases ofInteger_cases n with ⟨i, value, scalar⟩ | ⟨u, value, -, scalar⟩
  · rw [scalar, bare, String.toList_ofList, value]
  · have positive : ¬ n.val < 0 := by omega
    have digits : n.val.natAbs = u.toNat := by omega
    rw [scalar, bare, String.toList_ofList, Json.integerChars, if_neg positive, digits]

theorem literal_ofInteger (n : Json.Integer) : (ofInteger n).literal = toString n.val := by
  rw [← bare_ofInteger]
  rcases ofInteger_cases n with ⟨i, -, scalar⟩ | ⟨u, -, -, scalar⟩
  · rw [scalar]
    rfl
  · rw [scalar]
    rfl

theorem toJson_ofInteger (n : Json.Integer) : (ofInteger n).toJson = .number (.integer n) := by
  have same : ∀ m : Json.Integer, m.val = n.val →
      Json.number (.integer m) = .number (.integer n) := by
    rintro ⟨m, least, most⟩ value
    obtain rfl : m = n.val := value
    rfl
  rcases ofInteger_cases n with ⟨i, value, scalar⟩ | ⟨u, value, -, scalar⟩
  · rw [scalar, toJson]
    exact same _ value
  · rw [scalar, toJson]
    exact same _ value

theorem text_toJson_ofInteger (n : Json.Integer) :
    (ofInteger n).toJson.text = toString n.val := by
  apply String.toList_injective
  rw [toJson_ofInteger, Json.text, String.toList_ofList, Json.toList_toString]
  rfl

theorem isTruthy_ofInteger (n : Json.Integer) : (ofInteger n).isTruthy = true ↔ n.val ≠ 0 := by
  rcases ofInteger_cases n with ⟨i, value, scalar⟩ | ⟨u, value, -, scalar⟩
  · rw [scalar, isTruthy, value, decide_eq_true_eq]
  · rw [scalar, isTruthy, decide_eq_true_eq, ← value, Int.natCast_ne_zero]

/-- **Equal scalars are equal integers.** -/
theorem ofInteger_beq_iff (m n : Json.Integer) :
    (ofInteger m == ofInteger n) = true ↔ m.val = n.val := by
  rcases ofInteger_cases m with ⟨i, left, scalar⟩ | ⟨u, left, large, scalar⟩ <;>
    rcases ofInteger_cases n with ⟨j, right, other⟩ | ⟨v, right, above, other⟩ <;>
    rw [scalar, other, ← left, ← right]
  · show (i == j) = true ↔ _
    rw [beq_iff_eq, Int64.toInt_inj]
  · -- the other integer lies past the signed range
    have apart : i.toInt ≠ v.toNat := by
      have := i.toInt_lt
      omega
    exact iff_of_false Bool.false_ne_true apart
  · have apart : (u.toNat : Int) ≠ j.toInt := by
      have := j.toInt_lt
      omega
    exact iff_of_false Bool.false_ne_true apart
  · show (u == v) = true ↔ _
    rw [beq_iff_eq, Int.natCast_inj, UInt64.toNat_inj]

/-! ## Conversions -/

/-- Every value of the type that counts for the integer converts to its scalar, optional or not. -/
def Converts (α : Type) [ToScalar α] (count : α → Int) (n : Json.Integer) : Prop :=
  ∀ value : α, count value = n.val →
    toScalar value = ofInteger n ∧ toScalar (some value) = ofInteger n

theorem ofInteger_signed {n : Json.Integer} {i : Int64} (value : i.toInt = n.val) :
    ofInteger n = .signed i := by
  have small : n.val < 0x8000000000000000 := value ▸ i.toInt_lt
  rw [ofInteger, if_pos small, ← value, Int64.ofInt_toInt]

/-- Types whose values are widened to the signed range. -/
theorem converts_of_widen {α : Type} [ToScalar α] {count : α → Int} (widen : α → Int64)
    (widens : ∀ value : α, toScalar value = .signed (widen value))
    (keeps : ∀ value : α, (widen value).toInt = count value) (n : Json.Integer) :
    Converts α count n := by
  intro value counts
  have scalar : toScalar value = ofInteger n := by
    rw [widens, ofInteger_signed ((keeps value).trans counts)]
  exact ⟨scalar, scalar⟩

/-- The type with the unsigned range asks the signed one first. -/
theorem converts_uint64 (n : Json.Integer) : Converts UInt64 (fun value => value.toNat) n := by
  intro value counts
  have count : (value.toNat : Int) = n.val := counts
  have scalar : toScalar value = ofInteger n := by
    show (if _ then _ else _) = _
    by_cases small : value.toNat < 0x8000000000000000
    · rw [if_pos small, ofInteger_signed ((Int64.toInt_ofNat_of_lt small).trans count)]
    · have above : ¬ n.val < 0x8000000000000000 := by omega
      rw [if_neg small, ofInteger, if_neg above, ← count, Int.toNat_natCast, UInt64.ofNat_toNat]
  exact ⟨scalar, scalar⟩

theorem converts_usize (n : Json.Integer) : Converts USize (fun value => value.toNat) n := by
  intro value counts
  have widened : (value.toUInt64.toNat : Int) = n.val := by
    rw [value.toNat_toUInt64]
    exact counts
  exact converts_uint64 n value.toUInt64 widened

/-- All integer types convert the integer to its scalar, each where it holds it. -/
structure ConvertsFromAll (n : Json.Integer) : Prop where
  int8 : Converts Int8 Int8.toInt n
  int16 : Converts Int16 Int16.toInt n
  int32 : Converts Int32 Int32.toInt n
  int64 : Converts Int64 Int64.toInt n
  uint8 : Converts UInt8 (fun value => value.toNat) n
  uint16 : Converts UInt16 (fun value => value.toNat) n
  uint32 : Converts UInt32 (fun value => value.toNat) n
  uint64 : Converts UInt64 (fun value => value.toNat) n
  usize : Converts USize (fun value => value.toNat) n

theorem convertsFromAll (n : Json.Integer) : ConvertsFromAll n where
  int8 := converts_of_widen Int8.toInt64 (fun _ => rfl) Int8.toInt_toInt64 n
  int16 := converts_of_widen Int16.toInt64 (fun _ => rfl) Int16.toInt_toInt64 n
  int32 := converts_of_widen Int32.toInt64 (fun _ => rfl) Int32.toInt_toInt64 n
  int64 := converts_of_widen id (fun _ => rfl) (fun _ => rfl) n
  uint8 := by
    refine converts_of_widen _ (fun _ => rfl) (fun value => ?_) n
    exact Int64.toInt_ofNat_of_lt (Nat.lt_trans value.toNat_lt (by decide))
  uint16 := by
    refine converts_of_widen _ (fun _ => rfl) (fun value => ?_) n
    exact Int64.toInt_ofNat_of_lt (Nat.lt_trans value.toNat_lt (by decide))
  uint32 := by
    refine converts_of_widen _ (fun _ => rfl) (fun value => ?_) n
    exact Int64.toInt_ofNat_of_lt (Nat.lt_trans value.toNat_lt (by decide))
  uint64 := converts_uint64 n
  usize := converts_usize n

/-! ## Reading -/

/-- The decimal text of an integer is read as the number that it stands for, if there is one. -/
theorem value_toString (n : Int) :
    Json.Reader.value Json.maxDepth (toString n).toList =
      match Json.Number.ofWhole? n with
      | some number => .ok (.number number, [])
      | none => .error .malformed := by
  have stops : Json.Stops [] := trivial
  rw [Json.toList_toString, ← List.append_nil (Json.integerChars n)]
  exact Json.Reader.value_integerChars Json.maxDepth n stops

theorem parse_toString {n : Int} {number : Json.Number}
    (whole : Json.Number.ofWhole? n = some number) {scalar : Scalar}
    (tried : decode (.number number) = .ok scalar) : parse (toString n) = .ok scalar := by
  simp only [parse, Json.Reader.wholeText, reader, value_toString, whole, tried, bind, Except.bind]
  rfl

theorem parse_toString_malformed {n : Int} (whole : Json.Number.ofWhole? n = none) :
    parse (toString n) = .error .malformed := by
  simp only [parse, Json.Reader.wholeText, reader, value_toString, whole, bind, Except.bind]

theorem parse_integer (n : Json.Integer) : parse (toString n.val) = .ok (ofInteger n) :=
  parse_toString (Json.Number.ofWhole?_integer n) (decode_integer n)

/-- **Outside the two ranges a text is read as the nearest double**, as long as there is one. -/
theorem parse_outside {n : Int} (outside : n < -0x8000000000000000 ∨ 0x10000000000000000 ≤ n) :
    parse (toString n) =
      if n.natAbs < 2 ^ 1024 - 2 ^ 970 then .ok (.float (Binary64.ofInt n))
      else .error .malformed := by
  have whole := Json.Number.ofWhole?_outside outside
  have range := Binary64.isFinite_ofInt_iff n
  rw [Binary64.overflow] at range
  split
  · next below =>
    have finite := range.mpr below
    rw [Json.Number.ofBinary64?, dif_pos finite] at whole
    exact parse_toString whole rfl
  · next past =>
    rw [Json.Number.ofBinary64?, dif_neg (mt range.mp past)] at whole
    exact parse_toString_malformed whole

/-! ## The signed range comes first -/

/-- The scalar is not an unsigned integer that the signed range holds. -/
def SignedFirst : Scalar → Prop
  | .unsigned m => 0x8000000000000000 ≤ m.toNat
  | _ => True

/-- Whatever is converted from the type, or is absent. -/
def AllSignedFirst (α : Type) [ToScalar α] : Prop :=
  ∀ value : Option α, (toScalar value).SignedFirst

theorem allSignedFirst_of {α : Type} [ToScalar α]
    (each : ∀ value : α, (toScalar value).SignedFirst) : AllSignedFirst α := by
  intro value
  cases value with
  | none => trivial
  | some value => exact each value

theorem signedFirst_uint64 (value : UInt64) : (toScalar value).SignedFirst := by
  show SignedFirst (if _ then _ else _)
  split
  · trivial
  · next large => exact Nat.le_of_not_lt large

/-- No type converts to an unsigned scalar that the signed range holds. -/
structure NoneSmallUnsigned : Prop where
  unit : AllSignedFirst Unit
  bool : AllSignedFirst Bool
  int8 : AllSignedFirst Int8
  int16 : AllSignedFirst Int16
  int32 : AllSignedFirst Int32
  int64 : AllSignedFirst Int64
  uint8 : AllSignedFirst UInt8
  uint16 : AllSignedFirst UInt16
  uint32 : AllSignedFirst UInt32
  uint64 : AllSignedFirst UInt64
  usize : AllSignedFirst USize
  float : AllSignedFirst Binary64
  text : AllSignedFirst String
  identifier : AllSignedFirst Uuid
  instant : AllSignedFirst Instant
  option : ∀ (α : Type) [ToScalar α], AllSignedFirst α → AllSignedFirst (Option α)

theorem noneSmallUnsigned : NoneSmallUnsigned where
  unit := allSignedFirst_of fun _ => trivial
  bool := allSignedFirst_of fun _ => trivial
  int8 := allSignedFirst_of fun _ => trivial
  int16 := allSignedFirst_of fun _ => trivial
  int32 := allSignedFirst_of fun _ => trivial
  int64 := allSignedFirst_of fun _ => trivial
  uint8 := allSignedFirst_of fun _ => trivial
  uint16 := allSignedFirst_of fun _ => trivial
  uint32 := allSignedFirst_of fun _ => trivial
  uint64 := allSignedFirst_of signedFirst_uint64
  usize := allSignedFirst_of fun value => signedFirst_uint64 value.toUInt64
  float := allSignedFirst_of fun _ => trivial
  text := allSignedFirst_of fun _ => trivial
  identifier := allSignedFirst_of fun _ => trivial
  instant := allSignedFirst_of fun _ => trivial
  option := fun _ _ each => allSignedFirst_of each

theorem signedFirst_ofInteger (n : Json.Integer) : (ofInteger n).SignedFirst := by
  rcases ofInteger_cases n with ⟨i, -, scalar⟩ | ⟨u, value, above, scalar⟩ <;> rw [scalar]
  · trivial
  · show 0x8000000000000000 ≤ u.toNat
    omega

theorem signedFirst_of_decode {json : Json} {scalar : Scalar}
    (tried : decode json = .ok scalar) : scalar.SignedFirst := by
  cases json with
  | number n =>
    cases n with
    | integer n =>
      have scalar : decode (.number (.integer n)) = .ok (ofInteger n) := decode_integer n
      rw [scalar] at tried
      cases tried
      exact signedFirst_ofInteger n
    | float x finite =>
      cases tried
      trivial
  | array | object => cases tried
  | null | bool | string =>
    cases tried
    trivial

end Scalar

/-- What is read of a row's members. -/
theorem Row.signedFirst_of_decoded {members : Entries Json} {entries : Entries Scalar}
    (decoded : Decoded members entries) : ∀ entry ∈ entries, entry.2.SignedFirst := by
  induction decoded with
  | nil => exact List.forall_mem_nil _
  | @cons member entry members entries first _ ih =>
    exact List.forall_mem_cons.mpr ⟨Scalar.signedFirst_of_decode first.2, ih⟩

namespace Scalar

end Scalar

end Statements
