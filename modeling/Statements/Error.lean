import Statements.Json.Reader

/-!
# What can go wrong

Four kinds of failure reach a caller: an argument that cannot be used, a statement that the
database refused, a JSON value of another shape than wanted, and a text that was not read.
-/

namespace Statements

/-- Why an argument cannot be used. -/
inductive Unusable where
  /-- A statement needs a table name, and the empty text is none. -/
  | noTable
  /-- A scalar is a signed or an unsigned 64-bit integer, or a double. -/
  | unsupportedNumber (found : Json.Number)
  /-- A row holds scalars only. -/
  | notScalar (found : Json)
  /-- A row is read from a JSON object only. -/
  | notObject (found : Json)
  /-- Any other complaint of a caller. -/
  | other (complaint : String)

def Unusable.complaint : Unusable → String
  | .noTable => "Table name required"
  | .unsupportedNumber found => "Unsupported number " ++ String.ofList found.chars
  | .notScalar found => "Expected a scalar value, got " ++ found.text
  | .notObject found => "Expected a JSON object for a row, got " ++ found.text
  | .other complaint => complaint

inductive Error where
  | invalidArgument (cause : Unusable)
  | executionFailed (code : UInt16)
  | mismatch (cause : Json.Mismatch)
  | unreadable (fault : Json.TextFault)

/-- The text of an error, which names its kind first. -/
def Error.message : Error → String
  | .invalidArgument cause => "Invalid argument: " ++ cause.complaint
  | .executionFailed code => "Query execution failed with code " ++ toString code.toNat
  | .mismatch cause => "Serialization error: " ++ cause.message
  | .unreadable .malformed => "Serialization error: malformed text"
  | .unreadable (.mismatch cause) => "Serialization error: " ++ cause.message

/-- The JSON value of a text, for callers that report errors. -/
def Json.ofText (text : String) : Except Error Json := (Json.parse text).mapError .unreadable

end Statements
