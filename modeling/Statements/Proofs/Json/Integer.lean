import Statements.Proofs.Binary64.Overflow
import Statements.Proofs.Json.Value

/-!
# Integers of any size in JSON text

The digits of an integer are a JSON number however many they are. Within the two 64-bit ranges the
number is that integer. Outside them it is the nearest double, as long as that is finite; and when
there is none, the text is not read at all. So an integer is never read as another integer
(`value_integerChars`).
-/

namespace Statements.Json

namespace Number

theorem ofInt?_eq_none {n : Int} (outside : n < -0x8000000000000000 ∨ 0x10000000000000000 ≤ n) :
    ofInt? n = none := by
  apply dif_neg
  omega

/-- Outside the two ranges there is a double or nothing. -/
theorem ofWhole?_outside {n : Int}
    (outside : n < -0x8000000000000000 ∨ 0x10000000000000000 ≤ n) :
    ofWhole? n = ofBinary64? (Binary64.ofInt n) := by
  rw [ofWhole?, ofInt?_eq_none outside, Option.none_or]

end Number

/-- Lean's own decimal text of an integer. -/
theorem toList_toString (n : Int) : (toString n).toList = integerChars n := by
  cases n with
  | ofNat n =>
    have positive : ¬ Int.ofNat n < 0 := Int.not_lt.mpr (Int.natCast_nonneg n)
    rw [integerChars, if_neg positive]
    exact String.toList_ofList
  | negSucc n =>
    have negative : Int.negSucc n < 0 := Int.negSucc_lt_zero n
    have text : toString (Int.negSucc n) = "-" ++ String.ofList (Nat.toDigits 10 (n + 1)) := rfl
    have sign : "-".toList = ['-'] := rfl
    rw [integerChars, if_pos negative, text, String.toList_append, sign, String.toList_ofList,
      Int.natAbs_negSucc]
    rfl

theorem integerChars_ne_nil (n : Int) : integerChars n ≠ [] := by
  unfold integerChars
  split
  · exact List.cons_ne_nil _ _
  · exact Nat.toDigits_ne_nil

namespace Reader

/-- Digits that stand for no number are not read. -/
theorem unsignedNumber_eq_malformed (negative : Bool) {numeral : Numeral} (valid : numeral.Valid)
    (value : Number.ofParts? negative numeral.whole numeral.fraction numeral.exponent = none)
    {rest : List Char} (stops : Stops rest) :
    unsignedNumber negative (numeral.chars ++ rest) = malformed := by
  obtain ⟨readExponent, behindFraction⟩ := exponentChars_append numeral stops
  obtain ⟨readFraction, behindWhole⟩ := fractionChars_append valid behindFraction
  have readWhole := wholePart_append valid.whole valid.leading behindWhole
  simp only [Numeral.chars, List.append_assoc, unsignedNumber, readWhole, readFraction,
    readExponent, value, bind, Except.bind]

/-- **The digits of an integer are read** as the number that they stand for, or not at all. -/
theorem value_integerChars (depth : Nat) (n : Int) {rest : List Char} (stops : Stops rest) :
    value depth (integerChars n ++ rest) =
      match Number.ofWhole? n with
      | some number => .ok (.number number, rest)
      | none => .error .malformed := by
  have valid := Numeral.valid_ofNat n.natAbs
  have parts := Number.ofParts?_integer n
  have taken : number (integerChars n ++ rest) =
      match Number.ofWhole? n with
      | some number => .ok (number, rest)
      | none => .error .malformed := by
    rw [number_integerChars_append]
    cases whole : Number.ofWhole? n with
    | some number => exact unsignedNumber_append _ valid (parts.trans whole) stops
    | none => exact unsignedNumber_eq_malformed _ valid (parts.trans whole) stops
  have front : ∃ part, value depth = valueOf part := by
    cases depth with
    | zero => exact ⟨none, rfl⟩
    | succ depth => exact ⟨some (value depth), rfl⟩
  obtain ⟨part, valued⟩ := front
  rw [valued]
  obtain ⟨c, more, written⟩ := List.exists_cons_of_ne_nil (integerChars_ne_nil n)
  have numeral : Binary64.isNumeral c = true :=
    Binary64.isNumeral_integerChars n c (written ▸ List.mem_cons_self)
  rw [written, List.cons_append] at taken ⊢
  rw [valueOf_numeral part numeral, taken]
  cases Number.ofWhole? n <;> rfl

end Reader

end Statements.Json
