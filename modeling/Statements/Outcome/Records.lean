import Statements.Outcome.Basic

/-!
# Rows read as values of other types

A record reader goes through the members of a row in their order. A member that is no field of the
record is passed over; a field that was read before or whose value does not fit ends the reading at
once. Only when all members are read are the missing fields looked for, in the order of the record.
So the error is that of the first offending member, and a missing field is reported only if no
member offends.
-/

namespace Statements

/-- A field of a record that is being read: its name, and what a value of it does to what is known
of the record. -/
structure Field (σ : Type) where
  name : String
  read : Json → Except Json.Mismatch (σ → σ)

namespace Field

/-- The field that a decoder reads and a function of its value takes up. -/
def of {σ α : Type} (name : String) (decoder : Json.Decoder α) (take : α → σ → σ) : Field σ where
  name := name
  read json := (decoder json).map take

/-- What is known of a record after some members, of which some fields were read before. -/
def readFrom {σ : Type} (fields : List (Field σ)) :
    (seen : List String) → (known : σ) → Entries Json → Except Json.Mismatch σ
  | _, known, [] => .ok known
  | seen, known, (name, json) :: members =>
    match fields.find? fun field => field.name = name with
    | none => readFrom fields seen known members
    | some field =>
      if name ∈ seen then .error (.duplicateField name)
      else do readFrom fields (name :: seen) ((← field.read json) known) members

/-- What is known of a record after all members. -/
def readMembers {σ : Type} (fields : List (Field σ)) (known : σ) (members : Entries Json) :
    Except Json.Mismatch σ := readFrom fields [] known members

/-- The value of a field that has to be there. -/
def required {α : Type} (name : String) : Option α → Except Json.Mismatch α
  | some value => .ok value
  | none => .error (.missingField name)

end Field

/-- Types that a row can be read as. -/
class OfRow (α : Type) where
  ofMembers : Entries Json → Except Json.Mismatch α

/-- The rows of an outcome as values of a type. -/
def Outcome.decode (α : Type) [OfRow α] (outcome : Outcome) : Except Error (List α) :=
  outcome.decodeRows OfRow.ofMembers

/-- The number of visits on a date. -/
structure Visit where
  date : UInt64
  count : UInt32
deriving DecidableEq

namespace Visit

/-- The fields of a visit that are known. -/
structure Known where
  date : Option UInt64
  count : Option UInt32

def fields : List (Field Known) :=
  [ .of "date" (Json.Decoder.integer .unsigned64) fun n known =>
      { known with date := some (UInt64.ofNat n.toNat) },
    .of "count" (Json.Decoder.integer .unsigned32) fun n known =>
      { known with count := some (UInt32.ofNat n.toNat) } ]

def ofMembers (members : Entries Json) : Except Json.Mismatch Visit := do
  let known ← Field.readMembers fields ⟨none, none⟩ members
  let date ← Field.required "date" known.date
  let count ← Field.required "count" known.count
  return ⟨date, count⟩

instance : OfRow Visit := ⟨ofMembers⟩

end Visit

/-- A person with a ratio. -/
structure Person where
  id : Int64
  name : Option String
  active : Bool
  ratio : Binary64
deriving DecidableEq

namespace Person

/-- The fields of a person that are known. A person without a name has none, and one who is not
called active is not. -/
structure Known where
  id : Option Int64
  name : Option String
  active : Bool
  ratio : Option Binary64

def fields : List (Field Known) :=
  [ .of "id" (Json.Decoder.integer .signed64) fun n known =>
      { known with id := some (Int64.ofInt n) },
    .of "name" Json.Decoder.string.optional fun name known => { known with name := name },
    .of "active" Json.Decoder.boolean fun active known => { known with active := active },
    .of "ratio" Json.Decoder.float fun ratio known => { known with ratio := some ratio } ]

def ofMembers (members : Entries Json) : Except Json.Mismatch Person := do
  let known ← Field.readMembers fields ⟨none, none, false, none⟩ members
  let id ← Field.required "id" known.id
  let ratio ← Field.required "ratio" known.ratio
  return ⟨id, known.name, known.active, ratio⟩

instance : OfRow Person := ⟨ofMembers⟩

end Person

instance : OfRow Row := ⟨fun members => Row.decode (.object members)⟩

instance : OfRow Json := ⟨fun members => .ok (.object members)⟩

/-- A row is no number. -/
instance : OfRow UInt64 where
  ofMembers members :=
    (Json.Decoder.integer .unsigned64 (.object members)).map fun n => UInt64.ofNat n.toNat

/-- Scalars by name, the names in ascending order. -/
structure ScalarMap where
  entries : Entries Scalar

def ScalarMap.ofRow (row : Row) : ScalarMap :=
  ⟨row.entries.mergeSort fun a b => a.1 ≤ b.1⟩

instance : OfRow ScalarMap where
  ofMembers members := (Row.decode (.object members)).map .ofRow

end Statements
