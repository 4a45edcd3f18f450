import Statements.Json.Printer
import Statements.Proofs.Binary64.Nearest
import Mathlib.Data.List.DropRight

/-!
# Figures and the characters of a double

The figures of a double are the digits of its shortest decimal without the zeros at the end, and
the place of the point. Two things are owed here to whoever reads a double back from its text.
First, that nothing is lost: figures have the value of the decimal they were taken from, since a
zero at the end moves into the exponent (`Figures.halves_ofDecimal`). Second, that the digits are
digits and do not start with a zero, which is what lets a reader take the digits before the point
as one whole part (`Figures.Leading`).

For whoever only needs to know what a number cannot contain, `Layout.isNumeral_of_mem_chars` names
the characters of every layout: digits, signs, the point and the exponent mark.
-/

namespace Statements

/-- Zeros at the end of the digits stand for powers of ten. -/
theorem Decimal.halves_shift (digits zeros : Nat) (exponent : Int) :
    Decimal.halves ⟨10 ^ zeros * digits, exponent⟩ = Decimal.halves ⟨digits, zeros + exponent⟩ := by
  unfold Decimal.halves
  rw [zpow_add₀ (by norm_num), zpow_natCast]
  push_cast
  ring

namespace Binary64

/-! ## Digits of a number -/

/-- The digits of a positive number do not start with a zero. -/
theorem head?_toDigits {n : Nat} (positive : 0 < n) : (Nat.toDigits 10 n).head? ≠ some '0' := by
  induction n using Nat.base_induction 10 (by decide) with
  | single m small =>
    rw [Nat.toDigits_of_lt_base small, List.head?_cons]
    revert small positive
    decide +revert
  | digit m k small nonzero ih =>
    rw [← Nat.toDigits_append_toDigits (by decide) nonzero small,
      List.head?_append_of_ne_nil _ Nat.toDigits_ne_nil]
    exact ih nonzero

theorem isDigit_toDigits {n : Nat} {c : Char} (mem : c ∈ Nat.toDigits 10 n) :
    c.isDigit = true :=
  Nat.isDigit_of_mem_toDigits (by decide) (by decide) mem

/-! ## Figures -/

namespace Figures

/-- The decimal of the figures: all digits, and the exponent of the last of them. -/
def decimal (f : Figures) : Decimal :=
  ⟨Nat.ofDigitChars 10 f.digits 0, f.point - f.digits.length⟩

/-- The digits are digits, there is one, and the first is no zero. -/
structure Leading (f : Figures) : Prop where
  isDigit : ∀ c ∈ f.digits, c.isDigit = true
  nonempty : f.digits ≠ []
  head : f.digits.head? ≠ some '0'

/-- The digits that figures were taken from end in zeros, which the place of the point counts. -/
theorem ofDecimal_digits (d : Decimal) :
    ∃ zeros, Nat.toDigits 10 d.digits = (ofDecimal d).digits ++ List.replicate zeros '0' ∧
      (ofDecimal d).point = (ofDecimal d).digits.length + zeros + d.exponent := by
  let ending := (Nat.toDigits 10 d.digits).rtakeWhile (· = '0')
  have split : (ofDecimal d).digits ++ ending = Nat.toDigits 10 d.digits :=
    List.rdropWhile_append_rtakeWhile
  have zeros : ending = List.replicate ending.length '0' := by
    apply List.eq_replicate_of_mem
    intro c mem
    have zero := List.mem_rtakeWhile_imp mem
    exact of_decide_eq_true zero
  refine ⟨ending.length, by rw [← zeros, split], ?_⟩
  have length := congrArg List.length split
  rw [List.length_append] at length
  have point : (ofDecimal d).point = (Nat.toDigits 10 d.digits).length + d.exponent := rfl
  rw [point, ← length, Nat.cast_add]

/-- Figures have the value of their decimal. -/
theorem halves_ofDecimal (d : Decimal) : (ofDecimal d).decimal.halves = d.halves := by
  obtain ⟨zeros, written, point⟩ := ofDecimal_digits d
  have digits : d.digits = 10 ^ zeros * Nat.ofDigitChars 10 (ofDecimal d).digits 0 := by
    rw [← Nat.ofDigitChars_replicate_zero, ← Nat.ofDigitChars_append, ← written,
      Nat.ofDigitChars_ten_toDigits]
  have exponent : (ofDecimal d).point - (ofDecimal d).digits.length = zeros + d.exponent := by
    omega
  calc (ofDecimal d).decimal.halves
      = Decimal.halves ⟨Nat.ofDigitChars 10 (ofDecimal d).digits 0, zeros + d.exponent⟩ := by
        rw [decimal, exponent]
    _ = Decimal.halves ⟨d.digits, d.exponent⟩ := by rw [← Decimal.halves_shift, ← digits]

theorem isDigit_ofDecimal {d : Decimal} {c : Char} (mem : c ∈ (ofDecimal d).digits) :
    c.isDigit = true := by
  obtain ⟨zeros, written, -⟩ := ofDecimal_digits d
  refine isDigit_toDigits (n := d.digits) ?_
  rw [written]
  exact List.mem_append_left _ mem

/-- The figures of a decimal with a digit are led by a digit that is no zero. -/
theorem leading_ofDecimal {d : Decimal} (positive : 0 < d.digits) : (ofDecimal d).Leading := by
  obtain ⟨zeros, written, -⟩ := ofDecimal_digits d
  have head := head?_toDigits positive
  have nonempty : (ofDecimal d).digits ≠ [] := by
    intro empty
    rw [empty, List.nil_append] at written
    cases zeros with
    | zero => exact Nat.toDigits_ne_nil written
    | succ zeros =>
      rw [written] at head
      exact head rfl
  refine ⟨fun c mem => isDigit_ofDecimal mem, nonempty, ?_⟩
  rwa [written, List.head?_append_of_ne_nil _ nonempty] at head

end Figures

/-- The figures of a positive rank are those of its shortest decimal. -/
theorem figures_of_ne_zero (tie : Tie) {rank : Nat} (positive : rank ≠ 0) :
    figures tie rank = Figures.ofDecimal (shortest tie rank) := by
  rw [figures, if_neg positive]

theorem figures_zero (tie : Tie) : figures tie 0 = ⟨['0'], 1⟩ := rfl

theorem isDigit_figures {tie : Tie} {rank : Nat} {c : Char} (mem : c ∈ (figures tie rank).digits) :
    c.isDigit = true := by
  by_cases zero : rank = 0
  · rw [zero, figures_zero] at mem
    obtain rfl := List.mem_singleton.mp mem
    rfl
  · rw [figures_of_ne_zero tie zero] at mem
    exact Figures.isDigit_ofDecimal mem

/-! ## The characters of a layout -/

/-- A character that numbers are written with. -/
def isNumeral (c : Char) : Bool := c.isDigit || c ∈ ['-', '+', '.', 'e']

theorem isNumeral_of_isDigit {c : Char} (digit : c.isDigit = true) : isNumeral c = true := by
  rw [isNumeral, digit, Bool.true_or]

theorem isNumeral_toDigits {n : Nat} {c : Char} (mem : c ∈ Nat.toDigits 10 n) :
    isNumeral c = true :=
  isNumeral_of_isDigit (isDigit_toDigits mem)

/-- Texts of numerals next to one another. -/
theorem isNumeral_append {front back : List Char} (left : ∀ c ∈ front, isNumeral c = true)
    (right : ∀ c ∈ back, isNumeral c = true) : ∀ c ∈ front ++ back, isNumeral c = true :=
  fun c mem => (List.mem_append.mp mem).elim (left c) (right c)

theorem isNumeral_cons {c : Char} {rest : List Char} (head : isNumeral c = true)
    (tail : ∀ d ∈ rest, isNumeral d = true) : ∀ d ∈ c :: rest, isNumeral d = true :=
  List.forall_mem_cons.mpr ⟨head, tail⟩

theorem isNumeral_replicate_zero (n : Nat) : ∀ c ∈ List.replicate n '0', isNumeral c = true := by
  intro c mem
  obtain rfl := List.eq_of_mem_replicate mem
  rfl

namespace Layout

variable {layout : Layout} {f : Figures}

theorem isNumeral_positional (digits : ∀ c ∈ f.digits, c.isDigit = true) :
    ∀ c ∈ layout.positional f, isNumeral c = true := by
  have numerals : ∀ c ∈ f.digits, isNumeral c = true :=
    fun c mem => isNumeral_of_isDigit (digits c mem)
  unfold positional
  split
  · exact isNumeral_cons rfl (isNumeral_cons rfl
      (isNumeral_append (isNumeral_replicate_zero _) numerals))
  split
  · exact isNumeral_append (fun c mem => numerals c (List.mem_of_mem_take mem))
      (isNumeral_cons rfl fun c mem => numerals c (List.mem_of_mem_drop mem))
  · refine isNumeral_append (isNumeral_append numerals (isNumeral_replicate_zero _)) ?_
    split
    · exact isNumeral_cons rfl (isNumeral_cons rfl fun c mem => nomatch mem)
    · simp

theorem isNumeral_scientific (digits : ∀ c ∈ f.digits, c.isDigit = true) :
    ∀ c ∈ scientific f, isNumeral c = true := by
  have numerals : ∀ c ∈ f.digits, isNumeral c = true :=
    fun c mem => isNumeral_of_isDigit (digits c mem)
  have fraction : ∀ c ∈ f.digits.drop 1, isNumeral c = true :=
    fun c mem => numerals c (List.mem_of_mem_drop mem)
  unfold scientific
  refine isNumeral_append (isNumeral_append (fun c mem => numerals c (List.mem_of_mem_take mem)) ?_)
    (isNumeral_cons rfl (isNumeral_cons ?_ fun c mem => isNumeral_toDigits mem))
  · split
    · simp
    · exact isNumeral_cons rfl fraction
  · split <;> rfl

/-- Whatever the layout, something is written: a place for the point asks for as many digits. -/
theorem chars_ne_nil (layout : Layout) (x : Binary64) : layout.chars x ≠ [] := by
  have magnitude : layout.magnitude x.rank ≠ [] := by
    simp only [Layout.magnitude, positional, scientific, whole]
    split
    · split
      · exact List.cons_ne_nil _ _
      split
      · exact List.append_ne_nil_of_right_ne_nil _ (List.cons_ne_nil _ _)
      · next above among =>
        apply List.append_ne_nil_of_left_ne_nil
        apply List.ne_nil_of_length_pos
        rw [List.length_append, List.length_replicate]
        omega
    · exact List.append_ne_nil_of_right_ne_nil _ (List.cons_ne_nil _ _)
  unfold chars
  split
  · exact List.cons_ne_nil _ _
  · exact magnitude

/-- Whatever the layout, a double is written with digits, signs, the point and the mark of the
exponent. -/
theorem isNumeral_of_mem_chars {x : Binary64} {c : Char} (mem : c ∈ layout.chars x) :
    isNumeral c = true := by
  have digits : ∀ c ∈ (figures layout.tie x.rank).digits, c.isDigit = true :=
    fun c mem => isDigit_figures mem
  have magnitude : ∀ c ∈ layout.magnitude x.rank, isNumeral c = true := by
    rw [Layout.magnitude]
    split
    · exact isNumeral_positional digits
    · exact isNumeral_scientific digits
  unfold chars at mem
  split at mem
  · exact isNumeral_cons rfl magnitude c mem
  · exact magnitude c mem

end Layout

theorem isNumeral_integerChars (n : Int) : ∀ c ∈ Json.integerChars n, isNumeral c = true := by
  unfold Json.integerChars
  split
  · exact isNumeral_cons rfl fun c mem => isNumeral_toDigits mem
  · intro c mem
    exact isNumeral_toDigits mem

/-- A number of JSON is written with the same characters. -/
theorem isNumeral_number (n : Json.Number) : ∀ c ∈ n.chars, isNumeral c = true := by
  cases n with
  | integer n => exact isNumeral_integerChars n.val
  | float x finite => exact fun c mem => Layout.isNumeral_of_mem_chars mem

end Binary64

end Statements
