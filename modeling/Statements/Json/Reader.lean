import Statements.Json.Mismatch

/-!
# Reading JSON text

A reader takes the characters left and answers a value with the characters that it leaves. Readers
of arrays and objects take the reader of their parts as an argument, so the same member loop reads
a JSON value and, elsewhere, a row of scalars straight from the text. Nesting is bounded by
`maxDepth`; a reader for one level is built from the reader for the level inside it, and at the
innermost level only scalars are read.

A number that is no integer of a 64-bit range is read as the nearest double. This is an assumption
about the JSON library that the texts are read with, and not a fact about it: its default reader
of doubles is best-effort and may miss the nearest one by a unit in the last place.
-/

namespace Statements

namespace Json

/-- Why a text was not read. -/
inductive TextFault where
  /-- The text is not JSON, or holds a number past the largest double. -/
  | malformed
  /-- The text is JSON of another shape than wanted. -/
  | mismatch (cause : Mismatch)

/-- Reads a value from the front of the characters and answers the rest with it. -/
abbrev Reader (α : Type) := List Char → Except TextFault (α × List Char)

/-- The number that a literal stands for. A plain integer literal is an integer if a 64-bit range
holds it; a minus zero, an integer out of range and every literal with a fraction or an exponent
are doubles. There is no number past the largest double. -/
def Number.ofParts? (negative : Bool) (whole : List Char) (fraction : Option (List Char))
    (exponent : Option Int) : Option Number :=
  let float (d : Decimal) := Number.ofBinary64? (Binary64.ofDecimal negative d)
  match fraction, exponent with
  | none, none =>
    let size := Nat.ofDigitChars 10 whole 0
    if negative then
      if size = 0 then float ⟨0, 0⟩ else (Number.ofInt? (-size)).or (float ⟨size, 0⟩)
    else (Number.ofInt? size).or (float ⟨size, 0⟩)
  | _, _ =>
    let digits := fraction.getD []
    float ⟨Nat.ofDigitChars 10 (whole ++ digits) 0, exponent.getD 0 - digits.length⟩

/-- The deepest nesting of arrays and objects that is read. -/
def maxDepth : Nat := 127

namespace Reader

def malformed {α : Type} : Except TextFault α := .error .malformed

/-- The four characters that may stand between the parts of a text. -/
def isBlank (c : Char) : Bool := c = ' ' || c = '\t' || c = '\n' || c = '\r'

def skipBlank (text : List Char) : List Char := text.dropWhile isBlank

/-- A fixed word that stands for a value. -/
def keyword {α : Type} (word : List Char) (value : α) : Reader α := fun text =>
  if word.isPrefixOf text then .ok (value, text.drop word.length) else malformed

/-! ## Numbers -/

/-- The digits after a point. Without a point there is no fraction. -/
def fraction : Reader (Option (List Char))
  | '.' :: rest =>
    let digits := rest.takeWhile Char.isDigit
    if digits.isEmpty then malformed else .ok (some digits, rest.dropWhile Char.isDigit)
  | text => .ok (none, text)

/-- The number after an exponent mark and a possible sign. -/
def signedExponent (negative : Bool) : Reader Int := fun text =>
  let digits := text.takeWhile Char.isDigit
  let size : Int := Nat.ofDigitChars 10 digits 0
  if digits.isEmpty then malformed
  else .ok (if negative then -size else size, text.dropWhile Char.isDigit)

/-- The exponent of a number, if it has one. -/
def exponent : Reader (Option Int)
  | mark :: rest =>
    if mark = 'e' || mark = 'E' then
      let read := match rest with
        | '-' :: after => signedExponent true after
        | '+' :: after => signedExponent false after
        | after => signedExponent false after
      read.map fun (size, rest) => (some size, rest)
    else .ok (none, mark :: rest)
  | [] => .ok (none, [])

/-- The digits before the point: at least one, and no zero before another digit. -/
def wholePart : Reader (List Char) := fun text =>
  match text.takeWhile Char.isDigit with
  | [] => malformed
  | '0' :: _ :: _ => malformed
  | digits => .ok (digits, text.dropWhile Char.isDigit)

/-- The digits, fraction and exponent of a number whose sign is known. -/
def unsignedNumber (negative : Bool) : Reader Number := fun text => do
  let (whole, text) ← wholePart text
  let (fraction, text) ← fraction text
  let (exponent, text) ← exponent text
  match Number.ofParts? negative whole fraction exponent with
  | some n => .ok (n, text)
  | none => malformed

def number : Reader Number
  | '-' :: rest => unsignedNumber true rest
  | text => unsignedNumber false text

/-! ## Strings -/

/-- A part of a string as written: a character, or one 16-bit unit of an escape by number. -/
inductive Piece where
  | char (c : Char)
  | unit (n : Nat)

/-- The character that a letter behind a backslash stands for. -/
def unescapeLetter? (letter : Char) : Option Char :=
  if letter = '"' then some '"'
  else if letter = '\\' then some '\\'
  else if letter = '/' then some '/'
  else if letter = 'b' then some '\x08'
  else if letter = 'f' then some '\x0c'
  else if letter = 'n' then some '\n'
  else if letter = 'r' then some '\r'
  else if letter = 't' then some '\t'
  else none

/-- The value of a hexadecimal digit of either case. -/
def hexDigit? (c : Char) : Option Nat :=
  if c.isDigit then some (c.toNat - '0'.toNat)
  else if 'a' ≤ c ∧ c ≤ 'f' then some (c.toNat - 'a'.toNat + 10)
  else if 'A' ≤ c ∧ c ≤ 'F' then some (c.toNat - 'A'.toNat + 10)
  else none

/-- The value of four hexadecimal digits. -/
def hexUnit? (a b c d : Char) : Option Nat := do
  return (((← hexDigit? a) * 16 + (← hexDigit? b)) * 16 + (← hexDigit? c)) * 16 + (← hexDigit? d)

/-- The parts of a string up to its closing quote. -/
def pieces : Reader (List Piece)
  | [] => malformed
  | c :: rest =>
    if c = '"' then .ok ([], rest)
    else if c = '\\' then
      match rest with
      | 'u' :: h₁ :: h₂ :: h₃ :: h₄ :: rest =>
        match hexUnit? h₁ h₂ h₃ h₄ with
        | some n => (pieces rest).map fun (more, rest) => (.unit n :: more, rest)
        | none => malformed
      | letter :: rest =>
        match unescapeLetter? letter with
        | some c => (pieces rest).map fun (more, rest) => (.char c :: more, rest)
        | none => malformed
      | [] => malformed
    else if c < ' ' then malformed
    else (pieces rest).map fun (more, rest) => (.char c :: more, rest)

/-- The unit opens a pair. -/
def isLeading (n : Nat) : Bool := 0xD800 ≤ n && n < 0xDC00

/-- The unit closes a pair. -/
def isTrailing (n : Nat) : Bool := 0xDC00 ≤ n && n < 0xE000

/-- The characters that the parts stand for. Two units that form a pair are one character; a unit
of a pair alone stands for none. -/
def join? : List Piece → Option (List Char)
  | [] => some []
  | .char c :: rest => (join? rest).map (c :: ·)
  | .unit n :: rest =>
    if isLeading n then
      match rest with
      | .unit m :: rest =>
        if isTrailing m then
          (join? rest).map (Char.ofNat (0x10000 + (n - 0xD800) * 0x400 + (m - 0xDC00)) :: ·)
        else none
      | _ => none
    else if isTrailing n then none
    else (join? rest).map (Char.ofNat n :: ·)

/-- A string after its opening quote. -/
def string : Reader String := fun text => do
  let (parts, rest) ← pieces text
  match join? parts with
  | some chars => .ok (String.ofList chars, rest)
  | none => malformed

/-! ## Arrays and objects -/

/-- The items of an array from one of them on. Each round reads at least one character, so the
length of the text bounds the rounds. -/
def itemsFrom {α : Type} (item : Reader α) : (rounds : Nat) → Reader (List α)
  | 0, _ => malformed
  | rounds + 1, text => do
    let (first, text) ← item text
    match skipBlank text with
    | ',' :: text => do
      let (others, text) ← itemsFrom item rounds text
      .ok (first :: others, text)
    | ']' :: text => .ok ([first], text)
    | _ => malformed

/-- The items of an array after its opening bracket. -/
def items {α : Type} (item : Reader α) : Reader (List α) := fun text =>
  match skipBlank text with
  | ']' :: text => .ok ([], text)
  | text => itemsFrom item text.length text

/-- The members of an object from one of them on. -/
def membersFrom {α : Type} (value : Reader α) : (rounds : Nat) → Reader (Entries α)
  | 0, _ => malformed
  | rounds + 1, text =>
    match skipBlank text with
    | '"' :: text => do
      let (name, text) ← string text
      match skipBlank text with
      | ':' :: text => do
        let (first, text) ← value text
        match skipBlank text with
        | ',' :: text => do
          let (others, text) ← membersFrom value rounds text
          .ok ((name, first) :: others, text)
        | '}' :: text => .ok ([(name, first)], text)
        | _ => malformed
      | _ => malformed
    | _ => malformed

/-- The members of an object after its opening brace. -/
def members {α : Type} (value : Reader α) : Reader (Entries α) := fun text =>
  match skipBlank text with
  | '}' :: text => .ok ([], text)
  | text => membersFrom value text.length text

/-! ## Values -/

/-- A JSON value whose parts, if it may have any, are read by the given reader. -/
def valueOf (part : Option (Reader Json)) : Reader Json := fun text =>
  match skipBlank text with
  | [] => malformed
  | c :: rest =>
    if c = 'n' then keyword ['n', 'u', 'l', 'l'] .null (c :: rest)
    else if c = 't' then keyword ['t', 'r', 'u', 'e'] (.bool true) (c :: rest)
    else if c = 'f' then keyword ['f', 'a', 'l', 's', 'e'] (.bool false) (c :: rest)
    else if c = '"' then (string rest).map fun (s, rest) => (.string s, rest)
    else if c = '[' then
      match part with
      | some part => (items part rest).map fun (parts, rest) => (.array parts, rest)
      | none => malformed
    else if c = '{' then
      match part with
      | some part =>
        (members part rest).map fun (parts, rest) => (.object (Entries.collapse parts), rest)
      | none => malformed
    else (number (c :: rest)).map fun (n, rest) => (.number n, rest)

/-- A JSON value with at most that many arrays and objects inside one another. -/
def value : (depth : Nat) → Reader Json
  | 0 => valueOf none
  | depth + 1 => valueOf (some (value depth))

/-- Reads a whole text: nothing but blanks may follow what the reader takes. -/
def wholeText {α : Type} (reader : Reader α) (text : String) : Except TextFault α := do
  let (answer, rest) ← reader text.toList
  if skipBlank rest = [] then .ok answer else malformed

end Reader

/-- The JSON value of a text. A repeated name of an object keeps its first position and its last
value. -/
def parse (text : String) : Except TextFault Json := Reader.wholeText (Reader.value maxDepth) text

end Json

end Statements
