import Statements.Json.Printer
import Statements.Json.Reader

/-!
# Strings read back from JSON text

A string is printed one character at a time, so it is read back one character at a time: from an
escaped character the reader takes one piece, whatever follows (`pieces_escaped`). The piece is the
character itself, however it is escaped, or the number of a control character that has no letter;
no such number is half of a pair, so the pieces join to the characters again.
-/

namespace Statements.Json.Reader

/-- What the reader takes from an escaped character. -/
def pieceOf (c : Char) : Piece :=
  if escapeLetter? c = none ∧ c < ' ' then .unit c.toNat else .char c

/-- Put a piece before the pieces that are read. -/
def prepend (piece : Piece) (read : List Piece × List Char) : List Piece × List Char :=
  (piece :: read.1, read.2)

/-- The reader takes from behind a backslash what the printer put there. -/
theorem pieces_letter {c letter : Char} (escape : escapeLetter? c = some letter)
    (rest : List Char) :
    pieces ('\\' :: letter :: rest) = (pieces rest).map (prepend (.char c)) := by
  unfold escapeLetter? at escape
  repeat' split at escape
  all_goals cases escape
  all_goals subst c
  all_goals rfl

theorem hexUnit?_digits : ∀ n < 32,
    hexUnit? '0' '0' (Nat.digitChar (n / 16)) (Nat.digitChar (n % 16)) = some n := by
  decide

theorem pieces_control {c : Char} (control : c < ' ') (rest : List Char) :
    pieces ('\\' :: 'u' :: '0' :: '0' :: Nat.digitChar (c.toNat / 16) ::
      Nat.digitChar (c.toNat % 16) :: rest) = (pieces rest).map (prepend (.unit c.toNat)) := by
  have value := hexUnit?_digits c.toNat control
  rw [pieces, if_neg (by decide), if_pos rfl, value]
  rfl

theorem pieces_plain {c : Char} (noQuote : c ≠ '"') (noBackslash : c ≠ '\\')
    (noControl : ¬ c < ' ') (rest : List Char) :
    pieces (c :: rest) = (pieces rest).map (prepend (.char c)) := by
  rw [pieces.eq_def]
  simp only [if_neg noQuote, if_neg noBackslash, if_neg noControl]
  rfl

/-- **The reader takes one piece from an escaped character.** -/
theorem pieces_escaped (c : Char) (rest : List Char) :
    pieces (escaped c ++ rest) = (pieces rest).map (prepend (pieceOf c)) := by
  cases escape : escapeLetter? c with
  | some letter =>
    have piece : pieceOf c = .char c := by simp [pieceOf, escape]
    rw [escaped, escape, piece]
    exact pieces_letter escape rest
  | none =>
    by_cases control : c < ' '
    · have piece : pieceOf c = .unit c.toNat := by simp [pieceOf, escape, control]
      have written : escaped c = ['\\', 'u', '0', '0', Nat.digitChar (c.toNat / 16),
          Nat.digitChar (c.toNat % 16)] := by simp [escaped, escape, control]
      rw [written, piece]
      exact pieces_control control rest
    · have piece : pieceOf c = .char c := by simp [pieceOf, control]
      have written : escaped c = [c] := by simp [escaped, escape, control]
      have noQuote : c ≠ '"' := by
        rintro rfl
        cases escape
      have noBackslash : c ≠ '\\' := by
        rintro rfl
        cases escape
      rw [written, piece]
      exact pieces_plain noQuote noBackslash control rest

theorem pieces_flatMap (cs rest : List Char) :
    pieces (cs.flatMap escaped ++ '"' :: rest) = .ok (cs.map pieceOf, rest) := by
  induction cs with
  | nil => rw [List.flatMap_nil, List.nil_append, pieces.eq_def]; rfl
  | cons c cs ih =>
    rw [List.flatMap_cons, List.append_assoc, pieces_escaped, ih]
    rfl

/-- A number that is not half of a pair stands for its character. -/
theorem join?_unit {n : Nat} (noLeading : isLeading n = false) (noTrailing : isTrailing n = false)
    (rest : List Piece) : join? (.unit n :: rest) = (join? rest).map (Char.ofNat n :: ·) := by
  rw [join?.eq_def]
  simp only [noLeading, noTrailing, Bool.false_eq_true, if_false]

/-- The pieces of characters join to the characters. -/
theorem join?_map_pieceOf (cs : List Char) : join? (cs.map pieceOf) = some cs := by
  induction cs with
  | nil => rfl
  | cons c cs ih =>
    rw [List.map_cons, pieceOf]
    split
    · next unit =>
      have small : c.toNat < 32 := unit.2
      have noLeading : isLeading c.toNat = false := by
        rw [isLeading, decide_eq_false (by omega), Bool.false_and]
      have noTrailing : isTrailing c.toNat = false := by
        rw [isTrailing, decide_eq_false (by omega), Bool.false_and]
      rw [join?_unit noLeading noTrailing, ih, Char.ofNat_toNat]
      rfl
    · rw [join?, ih]
      rfl

/-- **A string is read back from its text**, behind its opening quote. -/
theorem string_escaped (s : String) (rest : List Char) :
    string (s.toList.flatMap escaped ++ '"' :: rest) = .ok (s, rest) := by
  simp only [string, pieces_flatMap, join?_map_pieceOf, String.ofList_toList, bind, Except.bind]

end Statements.Json.Reader
