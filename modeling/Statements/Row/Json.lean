import Statements.Row.Basic
import Statements.Scalar.Json

/-!
# Rows as JSON

Written straight to text a row keeps its repeated columns; as a JSON value it is an object, whose
members are the row's entries collapsed. Three ways lead back. `ofJson` takes a JSON object and
refuses the first member that has parts. `decode` reads a JSON value as one of several typed
values is read. `parse` reads the text itself, keeps repeated columns, and refuses a member with
parts as soon as it meets it.
-/

namespace Statements

namespace Row

/-- The members of the row's JSON object. -/
def members (row : Row) : Entries Json := (row.entries.mapValues Scalar.toJson).collapse

def toJson (row : Row) : Json := .object row.members

/-- The row written straight to text, with every entry. -/
def text (row : Row) : String := (Json.object (row.entries.mapValues Scalar.toJson)).text

/-- The members as columns, each read by the given function; the first that is not read tells the
error. -/
def ofMembers {ε : Type} (scalar : Json → Except ε Scalar) (members : Entries Json) :
    Except ε Row := do
  let entries ← members.mapM fun (column, json) => do return (column, ← scalar json)
  return ⟨entries⟩

/-- The row of a JSON object of scalars. -/
def ofJson : Json → Except Error Row
  | .object members => ofMembers Scalar.ofJson members
  | other => .error (.invalidArgument (.notObject other))

/-- The row of a JSON value, read as typed values are. -/
def decode : Json.Decoder Row
  | .object members => ofMembers Scalar.decode members
  | other => .error (.wrongType other .columns)

/-- A row straight from the text. What is not an object is read as a scalar before it is refused;
an array is refused at its bracket. -/
def reader : Json.Reader Row := fun text =>
  match Json.Reader.skipBlank text with
  | '{' :: rest =>
    (Json.Reader.members (Scalar.reader (Json.maxDepth - 1)) rest).map fun (entries, rest) =>
      (⟨entries⟩, rest)
  | '[' :: _ => .error (.mismatch (.wrongType (.array []) .columns))
  | text => do
    let (json, _) ← Json.Reader.value 0 text
    .error (.mismatch (.wrongType json .columns))

/-- The row of a text, repeated columns kept. -/
def parse (text : String) : Except Json.TextFault Row := Json.Reader.wholeText reader text

/-- The row of a text by way of its JSON value. -/
def ofJsonText (text : String) : Except Error Row := do ofJson (← Json.ofText text)

end Row

end Statements
