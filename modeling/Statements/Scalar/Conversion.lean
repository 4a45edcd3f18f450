import Statements.Scalar.Basic

/-!
# Values that become scalars

Every integer type converts to the signed scalar where the signed range holds the value, and only
an integer from 2 ^ 63 on becomes an unsigned one. An absent value is null, an identifier is its
text, and an instant is a whole number of milliseconds.
-/

namespace Statements

/-- Types whose values stand for scalars. -/
class ToScalar (α : Type) where
  toScalar : α → Scalar

export ToScalar (toScalar)

instance : ToScalar Scalar := ⟨id⟩
instance : ToScalar Unit := ⟨fun _ => .null⟩
instance : ToScalar Bool := ⟨.bool⟩
instance : ToScalar Int8 := ⟨fun n => .signed n.toInt64⟩
instance : ToScalar Int16 := ⟨fun n => .signed n.toInt64⟩
instance : ToScalar Int32 := ⟨fun n => .signed n.toInt64⟩
instance : ToScalar Int64 := ⟨.signed⟩
instance : ToScalar UInt8 := ⟨fun n => .signed (Int64.ofNat n.toNat)⟩
instance : ToScalar UInt16 := ⟨fun n => .signed (Int64.ofNat n.toNat)⟩
instance : ToScalar UInt32 := ⟨fun n => .signed (Int64.ofNat n.toNat)⟩

/-- The signed range is preferred, and holds every integer below 2 ^ 63. -/
instance : ToScalar UInt64 where
  toScalar n := if n.toNat < 0x8000000000000000 then .signed (Int64.ofNat n.toNat) else .unsigned n

instance : ToScalar USize := ⟨fun n => toScalar n.toUInt64⟩
instance : ToScalar Binary64 := ⟨.float⟩
instance : ToScalar String := ⟨.text⟩

instance {α : Type} [ToScalar α] : ToScalar (Option α) where
  toScalar
    | some value => toScalar value
    | none => .null

/-- A 128-bit identifier. -/
structure Uuid where
  value : BitVec 128
deriving DecidableEq

/-- The 32 hexadecimal digits in groups of 8, 4, 4, 4 and 12. -/
def Uuid.text (id : Uuid) : String :=
  let digits := Nat.toDigits 16 id.value.toNat
  let padded := List.replicate (32 - digits.length) '0' ++ digits
  let group (start size : Nat) : String := String.ofList ((padded.drop start).take size)
  "-".intercalate [group 0 8, group 8 4, group 12 4, group 16 4, group 20 12]

instance : ToScalar Uuid := ⟨fun id => .text id.text⟩

/-- A point in time, in seconds since the epoch and nanoseconds after that second. -/
structure Instant where
  seconds : Int
  nanoseconds : Nat
deriving DecidableEq

namespace Instant

/-- The instant of a timestamp, if the calendar has it: the second lies between the years that the
calendar spans, and only the last second of a minute may be followed by a leap second. -/
def ofTimestamp? (seconds : Int) (nanoseconds : Nat) : Option Instant :=
  if -8334601228800 ≤ seconds ∧ seconds ≤ 8210266876799 ∧ nanoseconds < 2000000000 ∧
      (nanoseconds < 1000000000 ∨ seconds % 60 = 59) then
    some ⟨seconds, nanoseconds⟩
  else none

/-- Whole milliseconds since the epoch. -/
def milliseconds (instant : Instant) : Int :=
  instant.seconds * 1000 + (instant.nanoseconds / 1000000 : Nat)

end Instant

instance : ToScalar Instant := ⟨fun instant => .signed (Int64.ofInt instant.milliseconds)⟩

end Statements
