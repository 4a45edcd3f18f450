import Statements.Json.Basic
import Statements.Binary64.Layout

/-!
# The text of a JSON value

The text is compact: no blank stands between its parts. Inside a string the quote, the backslash
and the characters below the blank are escaped, the commonest of them with a letter; every other
character stands for itself. A double shows that it is one: it always has a point or an exponent.
-/

namespace Statements

namespace Json

/-- An integer in decimal. -/
def integerChars (n : Int) : List Char :=
  if n < 0 then '-' :: Nat.toDigits 10 n.natAbs else Nat.toDigits 10 n.natAbs

/-- Doubles between 10 ^ -5 and 10 ^ 16 are written with a point and at least one fractional
digit, others with a signed exponent; of two equally near decimals the even one is taken. -/
def floatLayout : Binary64.Layout where
  plain exponent := -5 ≤ exponent && exponent < 16
  wholeFraction := true
  tie := .toEven

def Number.chars : Number → List Char
  | .integer n => integerChars n.val
  | .float x _ => floatLayout.chars x

/-- The letter that stands for a character behind a backslash, if there is one. -/
def escapeLetter? (c : Char) : Option Char :=
  if c = '"' then some '"'
  else if c = '\\' then some '\\'
  else if c = '\x08' then some 'b'
  else if c = '\x0c' then some 'f'
  else if c = '\n' then some 'n'
  else if c = '\r' then some 'r'
  else if c = '\t' then some 't'
  else none

/-- One character of a string. -/
def escaped (c : Char) : List Char :=
  match escapeLetter? c with
  | some letter => ['\\', letter]
  | none =>
    if c < ' ' then
      ['\\', 'u', '0', '0', Nat.digitChar (c.toNat / 16), Nat.digitChar (c.toNat % 16)]
    else [c]

/-- A string in quotes. -/
def stringChars (s : String) : List Char :=
  '"' :: (s.toList.flatMap escaped ++ ['"'])

def boolChars (b : Bool) : List Char :=
  if b then ['t', 'r', 'u', 'e'] else ['f', 'a', 'l', 's', 'e']

mutual
/-- The characters of a JSON value. -/
def chars : Json → List Char
  | .null => ['n', 'u', 'l', 'l']
  | .bool b => boolChars b
  | .number n => n.chars
  | .string s => stringChars s
  | .array items => '[' :: (itemsChars items ++ [']'])
  | .object members => '{' :: (membersChars members ++ ['}'])
/-- The items of an array, with commas between them. -/
def itemsChars : List Json → List Char
  | [] => []
  | [item] => item.chars
  | item :: next :: rest => item.chars ++ ',' :: itemsChars (next :: rest)
/-- The members of an object, with commas between them. -/
def membersChars : List (String × Json) → List Char
  | [] => []
  | [(name, value)] => stringChars name ++ ':' :: value.chars
  | (name, value) :: next :: rest =>
    stringChars name ++ ':' :: (value.chars ++ ',' :: membersChars (next :: rest))
end

/-- The compact text of a JSON value. -/
def text (json : Json) : String := String.ofList json.chars

end Json

end Statements
