import Statements.Binary64.Shortest
import Mathlib.Algebra.Order.Field.Power
import Mathlib.Data.Rat.Cast.Order
import Mathlib.Tactic.FieldSimp
import Mathlib.Tactic.Linarith
import Mathlib.Tactic.NormNum
import Mathlib.Tactic.Positivity
import Mathlib.Tactic.Ring

/-!
# The nearest double to a shortest decimal

A decimal is compared with midpoints, so all that counts of it is one rational number: how many
times it holds 2 ^ -1075, half of the smallest positive double. `reaches` is a statement about that
number (`reaches_succ`), and since midpoints increase, the ranks that a decimal reaches are an
initial segment (`reaches_of_le`). From there:

- the bisection finds the last rank reached (`bisect_eq`), and the two short cuts of `nearestRank`
  for very large and very small decimals answer what it would (`nearestRank_of_readsBack`);
- whichever grid the shortest decimal comes from, it reads back (`readsBack_shortest`), the exact
  decimal included.

So the nearest double to any decimal with the value of the shortest one is the double it was made
for: `ofDecimal_shortest`. Nothing here says that the decimal is short.
-/

namespace Statements

theorem halvesInOne_eq : halvesInOne = 2 ^ 1075 := by decide +kernel

theorem halvesInOne_pos : 0 < halvesInOne := by decide +kernel

/-- The value of a decimal as a multiple of 2 ^ -1075. -/
def Decimal.halves (d : Decimal) : ℚ := halvesInOne * (d.digits * 10 ^ d.exponent)

namespace Decimal

/-- A power of ten as a fraction of powers with natural exponents. -/
theorem ten_zpow_mul (exponent : Int) :
    (10 : ℚ) ^ exponent * 10 ^ (-exponent).toNat = 10 ^ exponent.toNat := by
  rw [← zpow_natCast (10 : ℚ) (-exponent).toNat, ← zpow_natCast (10 : ℚ) exponent.toNat,
    ← zpow_add₀ (by norm_num)]
  congr 1
  omega

/-- The two sides of a comparison, brought to the common denominator. -/
theorem halves_mul (d : Decimal) :
    d.halves * 10 ^ (-d.exponent).toNat =
      ((halvesInOne * d.digits * 10 ^ d.exponent.toNat : Nat) : ℚ) := by
  rw [halves, Nat.cast_mul, Nat.cast_mul, Nat.cast_pow, Nat.cast_ofNat,
    ← ten_zpow_mul d.exponent]
  ring

theorem compareHalves_eq (d : Decimal) (halves : Nat) :
    d.compareHalves halves = compare (halvesInOne * d.digits * 10 ^ d.exponent.toNat)
      (halves * 10 ^ (-d.exponent).toNat) := rfl

theorem compareHalves_eq_gt {d : Decimal} {halves : Nat} :
    d.compareHalves halves = .gt ↔ (halves : ℚ) < d.halves := by
  have positive : (0 : ℚ) < 10 ^ (-d.exponent).toNat := by positivity
  rw [compareHalves_eq, Nat.compare_eq_gt, ← mul_lt_mul_iff_left₀ positive, halves_mul,
    ← Nat.cast_lt (α := ℚ), Nat.cast_mul halves, Nat.cast_pow, Nat.cast_ofNat]

theorem compareHalves_eq_eq {d : Decimal} {halves : Nat} :
    d.compareHalves halves = .eq ↔ d.halves = halves := by
  have nonzero : (10 : ℚ) ^ (-d.exponent).toNat ≠ 0 := by positivity
  rw [compareHalves_eq, Nat.compare_eq_eq, ← mul_left_inj' nonzero, halves_mul,
    ← Nat.cast_inj (R := ℚ), Nat.cast_mul halves, Nat.cast_pow, Nat.cast_ofNat]

theorem passes_iff {d : Decimal} {halves : Nat} {inclusive : Bool} :
    d.passes halves inclusive = true ↔
      (halves : ℚ) < d.halves ∨ d.halves = halves ∧ inclusive = true := by
  rw [← compareHalves_eq_gt, ← compareHalves_eq_eq, passes]
  cases d.compareHalves halves <;>
    simp only [reduceCtorEq, true_and, false_and, false_or, or_false, Bool.false_eq_true]

/-- A decimal without digits is nothing. -/
theorem halves_of_digits_eq_zero {d : Decimal} (none : d.digits = 0) : d.halves = 0 := by
  rw [halves, none, Nat.cast_zero, zero_mul, mul_zero]

/-- A decimal with a digit is no smaller than its power of ten. -/
theorem le_halves {d : Decimal} {power : Nat} (some_digit : d.digits ≠ 0)
    (large : (power : Int) ≤ d.exponent) :
    ((halvesInOne * 10 ^ power : Nat) : ℚ) ≤ d.halves := by
  have one : (1 : ℚ) ≤ d.digits := by exact_mod_cast Nat.pos_of_ne_zero some_digit
  have powers : (10 : ℚ) ^ power ≤ 10 ^ d.exponent := by
    rw [← zpow_natCast]
    exact zpow_le_zpow_right₀ (by norm_num) large
  rw [halves, Nat.cast_mul, Nat.cast_pow, Nat.cast_ofNat]
  refine mul_le_mul_of_nonneg_left ?_ (Nat.cast_nonneg halvesInOne)
  calc (10 : ℚ) ^ power ≤ 10 ^ d.exponent := powers
    _ ≤ d.digits * 10 ^ d.exponent := le_mul_of_one_le_left (by positivity) one

/-- A decimal is below 2 ^ -1075 when its power of ten outweighs its digits. -/
theorem halves_lt_one {d : Decimal} {power : Nat} (exponent : d.exponent = -power)
    (small : halvesInOne * d.digits < 10 ^ power) : d.halves < 1 := by
  rw [halves, exponent, zpow_neg, zpow_natCast, ← mul_assoc, ← div_eq_mul_inv,
    div_lt_one (by positivity)]
  exact_mod_cast small

end Decimal

namespace Binary64

/-! ## Ranks in increasing order -/

/-- Ranks below the first block with a leading bit are their own magnitudes, the next rank too. -/
theorem units_of_le {rank : Nat} (le : rank ≤ 0x10000000000000) : units rank = rank := by
  rcases Nat.lt_or_eq_of_le le with below | rfl
  · rw [units, if_pos below]
  · decide

/-- The next rank is farther from zero. -/
theorem units_lt_succ (rank : Nat) : units rank < units (rank + 1) := by
  rcases Nat.lt_or_ge rank 0x10000000000000 with below | above
  · rw [units_of_le below, units_of_le below.le]
    exact Nat.lt_succ_self rank
  · rw [units, units, if_neg (by omega), if_neg (by omega), Nat.pow_eq, Nat.pow_eq]
    have spacing : 0 < 2 ^ (rank / 0x10000000000000 - 1) := Nat.two_pow_pos _
    by_cases last : rank % 0x10000000000000 + 1 = 0x10000000000000
    · -- the first rank of the next block, where the spacing doubles
      have block : (rank + 1) / 0x10000000000000 - 1 = rank / 0x10000000000000 - 1 + 1 := by omega
      have start : (rank + 1) % 0x10000000000000 = 0 := by omega
      rw [block, start, Nat.pow_succ]
      generalize 2 ^ (rank / 0x10000000000000 - 1) = s at spacing ⊢
      calc (0x10000000000000 + rank % 0x10000000000000) * s < 0x20000000000000 * s :=
            Nat.mul_lt_mul_of_pos_right (by omega) spacing
        _ = (0x10000000000000 + 0) * (s * 2) := by omega
    · have block : (rank + 1) / 0x10000000000000 = rank / 0x10000000000000 := by omega
      have next : (rank + 1) % 0x10000000000000 = rank % 0x10000000000000 + 1 := by omega
      rw [block, next]
      exact Nat.mul_lt_mul_of_pos_right (by omega) spacing

/-- The first midpoint is half of the smallest positive double. -/
theorem midpoint_zero : midpoint 0 = 1 := by decide

theorem midpoint_lt_succ (rank : Nat) : midpoint rank < midpoint (rank + 1) :=
  Nat.add_lt_add (units_lt_succ rank) (units_lt_succ (rank + 1))

/-! ## What a decimal reaches -/

theorem reaches_succ {d : Decimal} {below : Nat} :
    reaches d (below + 1) = true ↔
      (midpoint below : ℚ) < d.halves ∨
        d.halves = midpoint below ∧ (below + 1) % 2 = 0 := by
  rw [reaches, Decimal.passes_iff, decide_eq_true_eq]

/-- A decimal reaches what its value reaches. -/
theorem reaches_congr {d e : Decimal} (same : d.halves = e.halves) (rank : Nat) :
    reaches d rank = reaches e rank := by
  cases rank with
  | zero => rfl
  | succ below => rw [Bool.eq_iff_iff, reaches_succ, reaches_succ, same]

theorem readsBack_congr {d e : Decimal} (same : d.halves = e.halves) (rank : Nat) :
    readsBack rank d = readsBack rank e := by
  rw [readsBack, readsBack, reaches_congr same, reaches_congr same]

theorem readsBack_iff {d : Decimal} {rank : Nat} :
    readsBack rank d = true ↔ reaches d rank = true ∧ reaches d (rank + 1) = false := by
  rw [readsBack, Bool.and_eq_true, Bool.not_eq_true']

/-- Past a midpoint is past every lower midpoint. -/
theorem reaches_of_succ {d : Decimal} {rank : Nat} (reached : reaches d (rank + 1) = true) :
    reaches d rank = true := by
  cases rank with
  | zero => rfl
  | succ below =>
    have increases : (midpoint below : ℚ) < midpoint (below + 1) :=
      Nat.cast_lt.mpr (midpoint_lt_succ below)
    rw [reaches_succ] at reached ⊢
    rcases reached with past | ⟨exact, -⟩
    · exact .inl (increases.trans past)
    · exact .inl (exact ▸ increases)

theorem reaches_of_le {d : Decimal} {low high : Nat} (le : low ≤ high)
    (reached : reaches d high = true) : reaches d low = true := by
  induction high, le using Nat.le_induction with
  | base => exact reached
  | succ high _ ih => exact ih (reaches_of_succ reached)

/-- A decimal without digits does not reach the smallest positive double. -/
theorem not_reaches_one_of_digits_eq_zero {d : Decimal} (none : d.digits = 0) :
    reaches d 1 = false := by
  rw [← Bool.not_eq_true, reaches_succ, midpoint_zero, Nat.cast_one,
    Decimal.halves_of_digits_eq_zero none]
  rintro (past | ⟨exact, -⟩)
  · exact absurd past (by norm_num)
  · exact absurd exact (by norm_num)

/-! ## The last rank reached -/

/-- The bisection finds the last number at which a condition holds, if the condition holds of an
initial segment and the number lies in the range. -/
theorem bisect_eq {p : Nat → Bool} (initial : ∀ {low high}, low ≤ high → p high = true →
    p low = true) {last : Nat} (holds : p last = true) (fails : p (last + 1) = false) :
    ∀ (bits base : Nat), base ≤ last → last < base + 2 ^ bits → bisect p bits base = last := by
  intro bits
  induction bits with
  | zero =>
    intro base low high
    rw [Nat.pow_zero] at high
    exact Nat.le_antisymm low (Nat.le_of_lt_succ high)
  | succ bits ih =>
    intro base low high
    rw [Nat.pow_succ] at high
    rw [bisect, Nat.pow_eq]
    cases half : p (base + 2 ^ bits) with
    | true =>
      have reached : base + 2 ^ bits ≤ last := by
        by_contra past
        have next : p (last + 1) = true := initial (by omega) half
        exact Bool.noConfusion (next.symm.trans fails)
      exact ih _ reached (by omega)
    | false =>
      have missed : last < base + 2 ^ bits := by
        by_contra reached
        have here : p (base + 2 ^ bits) = true := initial (by omega) holds
        exact Bool.noConfusion (here.symm.trans half)
      exact ih base low missed

/-- A decimal above 10 ^ 400 reaches infinity: no finite double is that large. -/
theorem reaches_infinity {d : Decimal} (some_digit : d.digits ≠ 0) (large : 400 < d.exponent) :
    reaches d infinityRank = true := by
  obtain ⟨below, isNext⟩ : ∃ below, infinityRank = below + 1 := ⟨infinityRank - 1, rfl⟩
  -- the midpoint below infinity lies below twice its magnitude
  have midway : midpoint below < halvesInOne * 10 ^ 401 := by
    have step := units_lt_succ below
    have room : 2 * units infinityRank ≤ halvesInOne * 10 ^ 401 := by decide +kernel
    rw [midpoint, ← isNext]
    rw [← isNext] at step
    omega
  rw [isNext, reaches_succ]
  exact .inl ((Nat.cast_lt.mpr midway).trans_le (Decimal.le_halves some_digit large))

/-- A decimal below 2 ^ -1080 does not reach the smallest positive double. -/
theorem not_reaches_one {d : Decimal} (small : (d.digits.log2 : Int) + 1100 < 3 * -d.exponent) :
    reaches d 1 = false := by
  obtain ⟨power, exponent⟩ : ∃ power : Nat, d.exponent = -power :=
    ⟨(-d.exponent).toNat, by omega⟩
  have outweighed : halvesInOne * d.digits < 10 ^ power :=
    calc halvesInOne * d.digits < halvesInOne * 2 ^ (d.digits.log2 + 1) :=
          Nat.mul_lt_mul_of_pos_left Nat.lt_log2_self halvesInOne_pos
      _ = 2 ^ (1075 + (d.digits.log2 + 1)) := by rw [halvesInOne_eq, ← Nat.pow_add]
      _ ≤ 2 ^ (3 * power) := Nat.pow_le_pow_right (by decide) (by omega)
      _ = 8 ^ power := Nat.pow_mul 2 3 power
      _ ≤ 10 ^ power := Nat.pow_le_pow_left (by decide) power
  have value := Decimal.halves_lt_one exponent outweighed
  rw [← Bool.not_eq_true, reaches_succ, midpoint_zero, Nat.cast_one]
  rintro (past | ⟨exact, -⟩)
  · exact lt_asymm past value
  · exact value.ne exact

/-- The double nearest to a decimal is the one that the decimal reads back to. -/
theorem nearestRank_of_readsBack {d : Decimal} {rank : Nat} (finite : rank < infinityRank)
    (back : readsBack rank d = true) : nearestRank d = rank := by
  obtain ⟨reached, last⟩ := readsBack_iff.mp back
  have zero_of_not_reaches : reaches d 1 = false → 0 = rank := by
    intro missed
    by_contra positive
    have one : reaches d 1 = true := reaches_of_le (by omega) reached
    exact Bool.noConfusion (one.symm.trans missed)
  unfold nearestRank
  split_ifs with zero large small
  · exact zero_of_not_reaches (not_reaches_one_of_digits_eq_zero zero)
  · have next : reaches d (rank + 1) = true :=
      reaches_of_le finite (reaches_infinity zero large)
    exact Bool.noConfusion (next.symm.trans last)
  · exact zero_of_not_reaches (not_reaches_one small)
  · have bound : infinityRank ≤ 2 ^ 63 := by decide
    rw [bisect_eq reaches_of_le reached last 63 0 (Nat.zero_le _) (by omega)]
    exact Nat.min_eq_right finite.le

/-! ## Shortest decimals read back -/

/-- Only a neighbour that reads back is answered. -/
theorem readsBack_of_onGrid? {tie : Tie} {rank : Nat} {exponent : Int} {d : Decimal}
    (found : onGrid? tie rank exponent = some d) : readsBack rank d = true :=
  List.find?_some found

theorem halves_exactDecimal (rank : Nat) :
    (exactDecimal rank).halves = ((2 * units rank : Nat) : ℚ) := by
  have scale : halvesInOne * Nat.pow 5 1074 = 2 * Nat.pow 10 1074 := by decide +kernel
  have places : (-(-1074 : Int)).toNat = 1074 := rfl
  have whole : (-1074 : Int).toNat = 0 := rfl
  rw [exactDecimal]
  generalize Nat.pow 5 1074 = fives at scale ⊢
  have value := Decimal.halves_mul ⟨fives * units rank, -1074⟩
  rw [places, whole, ← Nat.mul_assoc, scale] at value
  -- how many places there are does not matter any more
  generalize (1074 : Nat) = n at value
  have nonzero : (10 : ℚ) ^ n ≠ 0 := pow_ne_zero n (by norm_num)
  refine mul_right_cancel₀ nonzero (value.trans ?_)
  rw [Nat.pow_eq, Nat.pow_zero]
  push_cast
  ring

/-- The exact decimal lies between the midpoints on its two sides. -/
theorem readsBack_exactDecimal (rank : Nat) : readsBack rank (exactDecimal rank) = true := by
  rw [readsBack_iff]
  constructor
  · cases rank with
    | zero => rfl
    | succ below =>
      rw [reaches_succ, halves_exactDecimal]
      have step := units_lt_succ below
      have past : midpoint below < 2 * units (below + 1) := by
        unfold midpoint
        omega
      exact .inl (Nat.cast_lt.mpr past)
  · rw [← Bool.not_eq_true, reaches_succ, halves_exactDecimal]
    have step := units_lt_succ rank
    have before : 2 * units rank < midpoint rank := by
      unfold midpoint
      omega
    have value : ((2 * units rank : Nat) : ℚ) < midpoint rank := Nat.cast_lt.mpr before
    rintro (past | ⟨exact, -⟩)
    · exact lt_asymm past value
    · exact value.ne exact

theorem readsBack_shortest (tie : Tie) (rank : Nat) :
    readsBack rank (shortest tie rank) = true := by
  rw [shortest]
  cases found : (List.range 17).findSome? fun (more : Nat) =>
      onGrid? tie rank (decimalPoint rank - 1 - more) with
  | none => exact readsBack_exactDecimal rank
  | some d =>
    obtain ⟨more, -, onGrid⟩ := List.exists_of_findSome?_eq_some found
    have neighbour : onGrid? tie rank (decimalPoint rank - 1 - (more : Nat)) = some d := onGrid
    exact readsBack_of_onGrid? neighbour

/-- The shortest decimal of a positive rank has a digit. -/
theorem shortest_digits_pos (tie : Tie) {rank : Nat} (positive : rank ≠ 0) :
    0 < (shortest tie rank).digits := by
  by_contra none
  have reached := (readsBack_iff.mp (readsBack_shortest tie rank)).1
  have one : reaches (shortest tie rank) 1 = true :=
    reaches_of_le (Nat.one_le_iff_ne_zero.mpr positive) reached
  have missed := not_reaches_one_of_digits_eq_zero (Nat.eq_zero_of_not_pos none)
  exact Bool.noConfusion (one.symm.trans missed)

/-! ## Doubles and their decimals -/

/-- A double is its sign and its rank. -/
theorem ofRank_rank (x : Binary64) : ofRank x.isNegative x.rank = x := by
  have bound := x.bits.toNat_lt
  have bits : (if x.isNegative then 0x8000000000000000 + x.rank else x.rank) = x.bits.toNat := by
    unfold isNegative rank
    split <;> rename_i sign <;> simp only [decide_eq_true_eq] at sign <;> omega
  rw [ofRank, bits, UInt64.ofNat_toNat]

/-- **The nearest double to a shortest decimal**, in whatever form the decimal is written, is the
double that it was made for. A zero takes any decimal without digits. -/
theorem ofDecimal_shortest (tie : Tie) {x : Binary64} (finite : x.isFinite = true) {d : Decimal}
    (value : if x.rank = 0 then d.digits = 0 else d.halves = (shortest tie x.rank).halves) :
    ofDecimal x.isNegative d = x := by
  have nearest : nearestRank d = x.rank := by
    split at value
    · next zero => rw [nearestRank, if_pos value, zero]
    · refine nearestRank_of_readsBack (of_decide_eq_true finite) ?_
      rw [readsBack_congr value]
      exact readsBack_shortest tie x.rank
  rw [ofDecimal, nearest, ofRank_rank]

end Binary64

end Statements
