import Statements.Json.Printer
import Statements.Json.Reader
import Statements.Proofs.Binary64.Figures

/-!
# Numbers read back from JSON text

A number is printed as a whole part, perhaps a fraction and perhaps an exponent, and the reader
takes these parts one after another: a `Numeral` names them. The digits of a part end where no
digit follows, so what stands behind a number has to be none of the characters that could continue
it (`Stops`), and in an array or object it is a comma or a closing bracket.

An integer is printed without a fraction, so it comes back as an integer. A double always shows a
fraction or an exponent, even if it is whole, so it comes back as a double; the parts have the
value of its shortest decimal, and the nearest double to that is the double itself.
-/

namespace Statements.Json

open Binary64 (Figures)

/-- A number could go on with the character. -/
def continues (c : Char) : Bool := c.isDigit || c = '.' || c = 'e' || c = 'E'

/-- A number cannot go on here. -/
def Stops : List Char → Prop
  | [] => True
  | c :: _ => continues c = false

theorem Stops.head {rest : List Char} (stops : Stops rest) :
    ∀ c ∈ rest.head?, c.isDigit = false ∧ c ≠ '.' ∧ c ≠ 'e' ∧ c ≠ 'E' := by
  cases rest with
  | nil => simp
  | cons c rest => simpa [Stops, continues, and_assoc] using stops

/-- The parts of a number without its sign, as they are written. -/
structure Numeral where
  whole : List Char
  fraction : Option (List Char)
  exponent : Option Int

namespace Numeral

def fractionChars (numeral : Numeral) : List Char :=
  numeral.fraction.elim [] ('.' :: ·)

def exponentChars (numeral : Numeral) : List Char :=
  numeral.exponent.elim [] fun size =>
    'e' :: (if size < 0 then '-' else '+') :: Nat.toDigits 10 size.natAbs

def chars (numeral : Numeral) : List Char :=
  numeral.whole ++ (numeral.fractionChars ++ numeral.exponentChars)

/-- Digits, and at least one of them. -/
def Digits (part : List Char) : Prop := part ≠ [] ∧ ∀ c ∈ part, c.isDigit = true

/-- The parts are digits, and a zero leads the whole part only if it is all of it. -/
structure Valid (numeral : Numeral) : Prop where
  whole : Digits numeral.whole
  leading : numeral.whole = ['0'] ∨ numeral.whole.head? ≠ some '0'
  fraction : ∀ part ∈ numeral.fraction, Digits part

/-- The value of the parts. -/
def decimal (numeral : Numeral) : Decimal :=
  let digits := numeral.fraction.getD []
  ⟨Nat.ofDigitChars 10 (numeral.whole ++ digits) 0, numeral.exponent.getD 0 - digits.length⟩

end Numeral

/-! ## The reader takes the parts -/

namespace Reader

open Numeral (Digits)

/-- Digits end where no digit follows. -/
theorem span_digits {part rest : List Char} (digits : ∀ c ∈ part, c.isDigit = true)
    (ends : ∀ c ∈ rest.head?, c.isDigit = false) :
    (part ++ rest).takeWhile Char.isDigit = part ∧
      (part ++ rest).dropWhile Char.isDigit = rest := by
  induction part with
  | nil =>
    cases rest with
    | nil => exact ⟨rfl, rfl⟩
    | cons c rest => simp [ends c rfl]
  | cons c part ih =>
    obtain ⟨first, others⟩ := List.forall_mem_cons.mp digits
    obtain ⟨taken, left⟩ := ih others
    simp [first, taken, left]

theorem wholePart_append {part rest : List Char} (digits : Digits part)
    (leading : part = ['0'] ∨ part.head? ≠ some '0') (ends : ∀ c ∈ rest.head?, c.isDigit = false) :
    wholePart (part ++ rest) = .ok (part, rest) := by
  obtain ⟨nonempty, all⟩ := digits
  obtain ⟨taken, left⟩ := span_digits all ends
  rw [wholePart, taken, left]
  split
  · exact absurd rfl nonempty
  · next zeros =>
    rcases leading with zero | head
    · cases zero
    · exact absurd rfl head
  · rfl

theorem fraction_append {part rest : List Char} (digits : Digits part)
    (ends : ∀ c ∈ rest.head?, c.isDigit = false) :
    fraction ('.' :: (part ++ rest)) = .ok (some part, rest) := by
  obtain ⟨nonempty, all⟩ := digits
  obtain ⟨taken, left⟩ := span_digits all ends
  simp [fraction, taken, left, nonempty]

theorem fraction_of_ne {rest : List Char} (noPoint : ∀ c ∈ rest.head?, c ≠ '.') :
    fraction rest = .ok (none, rest) := by
  unfold fraction
  split
  · exact absurd rfl (noPoint '.' rfl)
  · rfl

theorem digits_toDigits (n : Nat) : Digits (Nat.toDigits 10 n) :=
  ⟨Nat.toDigits_ne_nil, fun _ mem => Binary64.isDigit_toDigits mem⟩

theorem signedExponent_append {rest : List Char} (negative : Bool) (n : Nat)
    (ends : ∀ c ∈ rest.head?, c.isDigit = false) :
    signedExponent negative (Nat.toDigits 10 n ++ rest) =
      .ok (if negative then -(n : Int) else n, rest) := by
  obtain ⟨nonempty, all⟩ := digits_toDigits n
  obtain ⟨taken, left⟩ := span_digits all ends
  simp [signedExponent, taken, left, Nat.ofDigitChars_ten_toDigits]

theorem exponent_append {rest : List Char} (size : Int)
    (ends : ∀ c ∈ rest.head?, c.isDigit = false) :
    exponent ('e' :: (if size < 0 then '-' else '+') :: (Nat.toDigits 10 size.natAbs ++ rest)) =
      .ok (some size, rest) := by
  by_cases negative : size < 0
  · have value : -(size.natAbs : Int) = size := by omega
    rw [if_pos negative]
    show (signedExponent true (Nat.toDigits 10 size.natAbs ++ rest)).map _ = _
    rw [signedExponent_append true _ ends, if_pos rfl, value]
    rfl
  · have value : (size.natAbs : Int) = size := by omega
    rw [if_neg negative]
    show (signedExponent false (Nat.toDigits 10 size.natAbs ++ rest)).map _ = _
    rw [signedExponent_append false _ ends, if_neg Bool.false_ne_true, value]
    rfl

theorem exponent_of_ne {rest : List Char} (noMark : ∀ c ∈ rest.head?, c ≠ 'e' ∧ c ≠ 'E') :
    exponent rest = .ok (none, rest) := by
  cases rest with
  | nil => rfl
  | cons c rest =>
    obtain ⟨small, large⟩ := noMark c rfl
    simp [exponent, small, large]

/-- What comes behind the whole part, and what comes behind the fraction. -/
theorem exponentChars_append (numeral : Numeral) {rest : List Char} (stops : Stops rest) :
    exponent (numeral.exponentChars ++ rest) = .ok (numeral.exponent, rest) ∧
      ∀ c ∈ (numeral.exponentChars ++ rest).head?, c.isDigit = false ∧ c ≠ '.' := by
  obtain ⟨whole, fraction, exponent⟩ := numeral
  cases exponent with
  | none =>
    exact ⟨exponent_of_ne fun c mem => (stops.head c mem).2.2,
      fun c mem => ⟨(stops.head c mem).1, (stops.head c mem).2.1⟩⟩
  | some size =>
    refine ⟨exponent_append size fun c mem => (stops.head c mem).1, fun c mem => ?_⟩
    obtain rfl : 'e' = c := Option.some.inj mem
    simp

theorem fractionChars_append {numeral : Numeral} (valid : numeral.Valid) {rest : List Char}
    (ends : ∀ c ∈ rest.head?, c.isDigit = false ∧ c ≠ '.') :
    fraction (numeral.fractionChars ++ rest) = .ok (numeral.fraction, rest) ∧
      ∀ c ∈ (numeral.fractionChars ++ rest).head?, c.isDigit = false := by
  have digits := valid.fraction
  obtain ⟨whole, fraction, exponent⟩ := numeral
  cases fraction with
  | none =>
    exact ⟨fraction_of_ne fun c mem => (ends c mem).2, fun c mem => (ends c mem).1⟩
  | some part =>
    refine ⟨fraction_append (digits part rfl) fun c mem => (ends c mem).1, fun c mem => ?_⟩
    obtain rfl : '.' = c := Option.some.inj mem
    rfl

/-- **A numeral is read part by part.** -/
theorem unsignedNumber_append (negative : Bool) {numeral : Numeral} (valid : numeral.Valid)
    {number : Number} (value : Number.ofParts? negative numeral.whole numeral.fraction
      numeral.exponent = some number) {rest : List Char} (stops : Stops rest) :
    unsignedNumber negative (numeral.chars ++ rest) = .ok (number, rest) := by
  obtain ⟨readExponent, behindFraction⟩ := exponentChars_append numeral stops
  obtain ⟨readFraction, behindWhole⟩ := fractionChars_append valid behindFraction
  have readWhole := wholePart_append valid.whole valid.leading behindWhole
  simp only [Numeral.chars, List.append_assoc, unsignedNumber, readWhole, readFraction,
    readExponent, value, bind, Except.bind]

end Reader

/-! ## The printer writes parts -/

namespace Numeral

/-- An integer is its whole part. -/
def ofNat (n : Nat) : Numeral := ⟨Nat.toDigits 10 n, none, none⟩

theorem valid_ofNat (n : Nat) : (ofNat n).Valid where
  whole := Reader.digits_toDigits n
  leading := by
    cases n with
    | zero => exact .inl rfl
    | succ n => exact .inr (Binary64.head?_toDigits n.succ_pos)
  fraction := fun part mem => nomatch mem

theorem chars_ofNat (n : Nat) : (ofNat n).chars = Nat.toDigits 10 n := by
  simp [chars, ofNat, fractionChars, exponentChars]

/-- The figures as a layout with a point writes them: before all digits, among them or behind. -/
def positional (f : Figures) : Numeral :=
  if f.point ≤ 0 then ⟨['0'], some (List.replicate (-f.point).toNat '0' ++ f.digits), none⟩
  else if f.point.toNat < f.digits.length then
    ⟨f.digits.take f.point.toNat, some (f.digits.drop f.point.toNat), none⟩
  else ⟨f.digits ++ List.replicate (f.point.toNat - f.digits.length) '0', some ['0'], none⟩

/-- The figures with the point behind the first digit, and an exponent. -/
def scientific (f : Figures) : Numeral :=
  ⟨f.digits.take 1, if f.digits.drop 1 = [] then none else some (f.digits.drop 1),
    some (f.point - 1)⟩

theorem chars_positional (f : Figures) : (positional f).chars = floatLayout.positional f := by
  unfold positional Binary64.Layout.positional
  split
  · simp [chars, fractionChars, exponentChars]
  split
  · simp [chars, fractionChars, exponentChars]
  · simp [chars, fractionChars, exponentChars, Binary64.Layout.whole, floatLayout]

theorem chars_scientific (f : Figures) : (scientific f).chars = Binary64.scientific f := by
  by_cases empty : f.digits.drop 1 = []
  · simp only [scientific, Binary64.scientific, chars, fractionChars, exponentChars, if_pos empty,
      Option.elim_none, Option.elim_some, List.append_nil, List.nil_append]
  · simp only [scientific, Binary64.scientific, chars, fractionChars, exponentChars,
      if_neg empty, Option.elim_some, List.append_assoc, List.cons_append]

section Leading

variable {f : Figures} (leading : f.Leading)

include leading

theorem digits_take {n : Nat} (positive : 0 < n) :
    Digits (f.digits.take n) ∧ (f.digits.take n).head? ≠ some '0' := by
  refine ⟨⟨?_, fun c mem => leading.isDigit c (List.mem_of_mem_take mem)⟩, ?_⟩
  · intro empty
    rcases List.take_eq_nil_iff.mp empty with zero | none
    · omega
    · exact leading.nonempty none
  · rw [List.head?_take, if_neg (by omega)]
    exact leading.head

theorem digits_drop {n : Nat} (some : n < f.digits.length) : Digits (f.digits.drop n) := by
  refine ⟨?_, fun c mem => leading.isDigit c (List.mem_of_mem_drop mem)⟩
  rw [Ne, List.drop_eq_nil_iff]
  omega

theorem valid_positional : (positional f).Valid := by
  have zeros : ∀ n, ∀ c ∈ List.replicate n '0', c.isDigit = true := by
    intro n c mem
    obtain rfl := List.eq_of_mem_replicate mem
    rfl
  unfold positional
  split
  · refine ⟨⟨by simp, by simp⟩, .inl rfl, ?_⟩
    intro part mem
    obtain rfl := Option.some.inj mem
    refine ⟨List.append_ne_nil_of_right_ne_nil _ leading.nonempty, ?_⟩
    intro c mem
    rcases List.mem_append.mp mem with zero | digit
    · exact zeros _ c zero
    · exact leading.isDigit c digit
  split
  · next positive inside =>
    obtain ⟨whole, head⟩ := digits_take leading (n := f.point.toNat) (by omega)
    refine ⟨whole, .inr head, ?_⟩
    intro part mem
    obtain rfl := Option.some.inj mem
    exact digits_drop leading inside
  · refine ⟨⟨List.append_ne_nil_of_left_ne_nil leading.nonempty _, ?_⟩, .inr ?_, ?_⟩
    · intro c mem
      rcases List.mem_append.mp mem with digit | zero
      · exact leading.isDigit c digit
      · exact zeros _ c zero
    · rw [List.head?_append_of_ne_nil _ leading.nonempty]
      exact leading.head
    · intro part mem
      obtain rfl := Option.some.inj mem
      exact ⟨by simp, by simp⟩

theorem valid_scientific : (scientific f).Valid := by
  obtain ⟨whole, head⟩ := digits_take leading (n := 1) Nat.one_pos
  refine ⟨whole, .inr head, ?_⟩
  intro part mem
  unfold scientific at mem
  split at mem
  · cases mem
  · next some =>
    obtain rfl := Option.some.inj mem
    refine digits_drop leading ?_
    rw [List.drop_eq_nil_iff] at some
    omega

end Leading

/-! ### The parts have the value of the figures -/

theorem ofDigitChars_zeros_append (n : Nat) (part : List Char) :
    Nat.ofDigitChars 10 (List.replicate n '0' ++ part) 0 = Nat.ofDigitChars 10 part 0 := by
  rw [Nat.ofDigitChars_append, Nat.ofDigitChars_replicate_zero, Nat.mul_zero]

theorem halves_positional (f : Figures) : (positional f).decimal.halves = f.decimal.halves := by
  unfold positional
  split
  · next small =>
    have digits : ['0'] ++ (List.replicate (-f.point).toNat '0' ++ f.digits) =
        List.replicate ((-f.point).toNat + 1) '0' ++ f.digits := by
      rw [← List.append_assoc, List.replicate_succ]
      rfl
    have exponent : (0 : Int) - (List.replicate (-f.point).toNat '0' ++ f.digits).length =
        f.point - f.digits.length := by
      rw [List.length_append, List.length_replicate]
      omega
    simp only [decimal, Figures.decimal, Option.getD_some, Option.getD_none, digits, exponent,
      ofDigitChars_zeros_append]
  split
  · next positive inside =>
    have exponent : (0 : Int) - (f.digits.drop f.point.toNat).length =
        f.point - f.digits.length := by
      rw [List.length_drop]
      omega
    simp only [decimal, Figures.decimal, Option.getD_some, Option.getD_none, exponent,
      List.take_append_drop]
  · next positive outside =>
    -- the zeros behind the digits and the fraction 0 stand for powers of ten
    have digits : f.digits ++ List.replicate (f.point.toNat - f.digits.length) '0' ++ ['0'] =
        f.digits ++ List.replicate (f.point.toNat - f.digits.length + 1) '0' := by
      rw [List.append_assoc, ← List.replicate_succ']
    have exponent : ((f.point.toNat - f.digits.length + 1 : Nat) : Int) + (0 - 1) =
        f.point - f.digits.length := by
      omega
    show Decimal.halves ⟨Nat.ofDigitChars 10
      (f.digits ++ List.replicate (f.point.toNat - f.digits.length) '0' ++ ['0']) 0, 0 - 1⟩ = _
    rw [digits, Nat.ofDigitChars_append, Nat.ofDigitChars_replicate_zero, Decimal.halves_shift,
      exponent]
    rfl

theorem decimal_scientific {f : Figures} (leading : f.Leading) :
    (scientific f).decimal = f.decimal := by
  have fraction : (scientific f).fraction.getD [] = f.digits.drop 1 := by
    unfold scientific
    split
    · next empty => exact empty.symm
    · rfl
  have nonempty := List.length_pos_iff.mpr leading.nonempty
  have exponent : f.point - 1 - (f.digits.drop 1).length = f.point - f.digits.length := by
    rw [List.length_drop]
    omega
  rw [decimal, fraction]
  show Decimal.mk (Nat.ofDigitChars 10 (f.digits.take 1 ++ f.digits.drop 1) 0)
    (f.point - 1 - (f.digits.drop 1).length) = f.decimal
  rw [List.take_append_drop, exponent]
  rfl

/-- Figures as a double of JSON is written. -/
def ofFigures (f : Figures) : Numeral :=
  if floatLayout.plain (f.point - 1) then positional f else scientific f

theorem chars_ofFigures (rank : Nat) :
    (ofFigures (Binary64.figures floatLayout.tie rank)).chars = floatLayout.magnitude rank := by
  rw [ofFigures, Binary64.Layout.magnitude]
  split
  · exact chars_positional _
  · exact chars_scientific _

theorem valid_ofFigures (rank : Nat) :
    (ofFigures (Binary64.figures floatLayout.tie rank)).Valid := by
  by_cases zero : rank = 0
  · have written : ofFigures (Binary64.figures floatLayout.tie 0) = ⟨['0'], some ['0'], none⟩ := rfl
    have digit : Digits ['0'] := ⟨by simp, by simp⟩
    rw [zero, written]
    refine ⟨digit, .inl rfl, ?_⟩
    intro part mem
    obtain rfl := Option.some.inj mem
    exact digit
  · have leading : (Binary64.figures floatLayout.tie rank).Leading := by
      rw [Binary64.figures_of_ne_zero _ zero]
      exact Figures.leading_ofDecimal (Binary64.shortest_digits_pos _ zero)
    rw [ofFigures]
    split
    · exact valid_positional leading
    · exact valid_scientific leading

theorem halves_ofFigures {f : Figures} (leading : f.Leading) :
    (ofFigures f).decimal.halves = f.decimal.halves := by
  rw [ofFigures]
  split
  · exact halves_positional f
  · rw [decimal_scientific leading]

/-- The parts have the value of the shortest decimal, and those of zero have no value. -/
theorem decimal_ofFigures (rank : Nat) :
    let numeral := ofFigures (Binary64.figures floatLayout.tie rank)
    if rank = 0 then numeral.decimal.digits = 0
    else numeral.decimal.halves = (Binary64.shortest floatLayout.tie rank).halves := by
  by_cases zero : rank = 0
  · subst zero
    rfl
  · rw [if_neg zero, Binary64.figures_of_ne_zero _ zero]
    have leading := Figures.leading_ofDecimal (Binary64.shortest_digits_pos floatLayout.tie zero)
    exact (halves_ofFigures leading).trans (Figures.halves_ofDecimal _)

/-- A double shows a fraction or an exponent, and so is read as a double. -/
theorem ofParts?_ofFigures (negative : Bool) (f : Figures) :
    Number.ofParts? negative (ofFigures f).whole (ofFigures f).fraction (ofFigures f).exponent =
      Number.ofBinary64? (Binary64.ofDecimal negative (ofFigures f).decimal) := by
  rw [ofFigures]
  split
  · rw [positional]
    split
    · rfl
    split <;> rfl
  · rw [scientific]
    split <;> rfl

end Numeral

/-! ## Numbers -/

/-- The number that the digits of an integer stand for, if there is one. -/
def Number.ofWhole? (n : Int) : Option Number :=
  (ofInt? n).or (ofBinary64? (Binary64.ofInt n))

namespace Number

theorem ofWhole?_integer (n : Integer) : ofWhole? n.val = some (.integer n) := by
  have held : ofInt? n.val = some (.integer n) := dif_pos ⟨n.least, n.most⟩
  rw [ofWhole?, held, Option.some_or]

theorem ofParts?_integer (n : Int) :
    ofParts? (n < 0) (Nat.toDigits 10 n.natAbs) none none = ofWhole? n := by
  have size : Nat.ofDigitChars 10 (Nat.toDigits 10 n.natAbs) 0 = n.natAbs :=
    Nat.ofDigitChars_ten_toDigits
  by_cases negative : n < 0
  · have value : -(n.natAbs : Int) = n := by omega
    have nonzero : n.natAbs ≠ 0 := by omega
    simp only [ofParts?, ofWhole?, Binary64.ofInt, size, negative, value, nonzero, decide_true,
      if_true, if_false]
  · have value : (n.natAbs : Int) = n := by omega
    simp only [ofParts?, ofWhole?, Binary64.ofInt, size, negative, value, decide_false,
      Bool.false_eq_true, if_false]

end Number

namespace Reader

/-- A digit is no sign. -/
theorem number_of_digit {c : Char} (digit : c.isDigit = true) (more : List Char) :
    number (c :: more) = unsignedNumber false (c :: more) := by
  unfold number
  split
  · next sign =>
    obtain rfl : c = '-' := (List.cons.inj sign).1
    exact absurd digit (by decide)
  · rfl

theorem number_minus {numeral : Numeral} (valid : numeral.Valid) {n : Number}
    (value : Number.ofParts? true numeral.whole numeral.fraction numeral.exponent = some n)
    {rest : List Char} (stops : Stops rest) :
    number ('-' :: numeral.chars ++ rest) = .ok (n, rest) :=
  unsignedNumber_append true valid value stops

/-- A numeral does not begin with a sign. -/
theorem number_plain {numeral : Numeral} (valid : numeral.Valid) {n : Number}
    (value : Number.ofParts? false numeral.whole numeral.fraction numeral.exponent = some n)
    {rest : List Char} (stops : Stops rest) :
    number (numeral.chars ++ rest) = .ok (n, rest) := by
  rw [← unsignedNumber_append false valid value stops]
  obtain ⟨whole, fraction, exponent⟩ := numeral
  obtain ⟨nonempty, digits⟩ := valid.whole
  cases whole with
  | nil => exact absurd rfl nonempty
  | cons c whole => exact number_of_digit (digits c List.mem_cons_self) _

/-- The digits of an integer and their sign are taken apart. -/
theorem number_integerChars_append (n : Int) (rest : List Char) :
    number (integerChars n ++ rest) =
      unsignedNumber (n < 0) ((Numeral.ofNat n.natAbs).chars ++ rest) := by
  rw [integerChars, Numeral.chars_ofNat]
  by_cases negative : n < 0
  · rw [if_pos negative, decide_eq_true negative]
    rfl
  · rw [if_neg negative, decide_eq_false negative]
    obtain ⟨c, more, digits⟩ := List.exists_cons_of_ne_nil (Nat.toDigits_ne_nil (n := n.natAbs))
    rw [digits]
    exact number_of_digit (Binary64.isDigit_toDigits (digits ▸ List.mem_cons_self)) _

/-- **A number is read back from its text**: an integer as the same integer and a double as the
same double, with its sign. -/
theorem number_chars (n : Number) {rest : List Char} (stops : Stops rest) :
    number (n.chars ++ rest) = .ok (n, rest) := by
  cases n with
  | integer n =>
    have read := (Number.ofParts?_integer n.val).trans (Number.ofWhole?_integer n)
    rw [Number.chars, number_integerChars_append]
    exact unsignedNumber_append _ (Numeral.valid_ofNat n.val.natAbs) read stops
  | float x finite =>
    have valid := Numeral.valid_ofFigures x.rank
    have nearest :=
      Binary64.ofDecimal_shortest floatLayout.tie finite (Numeral.decimal_ofFigures x.rank)
    have read := Numeral.ofParts?_ofFigures x.isNegative (Binary64.figures floatLayout.tie x.rank)
    rw [nearest, Number.ofBinary64?, dif_pos finite] at read
    rw [Number.chars, Binary64.Layout.chars, ← Numeral.chars_ofFigures]
    cases sign : x.isNegative with
    | true =>
      rw [sign] at read
      exact number_minus valid read stops
    | false =>
      rw [sign] at read
      exact number_plain valid read stops

end Reader

end Statements.Json
