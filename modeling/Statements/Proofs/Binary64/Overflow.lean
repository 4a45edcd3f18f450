import Statements.Proofs.Binary64.Nearest

/-!
# Decimals past the largest double

The double nearest to a decimal is infinite exactly if the decimal reaches the rank of infinity,
that is, if it lies at or past the midpoint between the largest double and what would be the next
one; the rank of infinity is even, so the midpoint itself counts (`isFinite_ofDecimal_iff`). The
short cuts of `nearestRank` agree with this: a decimal that reaches infinity is neither without
digits nor below the smallest positive double.

Of an integer the midpoint is a plain bound on its magnitude (`isFinite_ofInt_iff`). Below it an
integer may still lie past the largest double, and is then rounded down to it.
-/

namespace Statements.Binary64

/-- The bisection does not stop below a number that it could still reach. -/
theorem le_bisect {p : Nat → Bool} (initial : ∀ {low high}, low ≤ high → p high = true →
    p low = true) {target : Nat} (holds : p target = true) :
    ∀ (bits base : Nat), target < base + 2 ^ bits → target ≤ bisect p bits base := by
  intro bits
  induction bits with
  | zero =>
    intro base below
    rw [Nat.pow_zero] at below
    exact Nat.le_of_lt_succ below
  | succ bits ih =>
    intro base below
    rw [Nat.pow_succ] at below
    rw [bisect, Nat.pow_eq]
    cases half : p (base + 2 ^ bits) with
    | true => exact ih _ (by omega)
    | false =>
      have inside : target < base + 2 ^ bits := by
        by_contra past
        have reached : p (base + 2 ^ bits) = true := initial (by omega) holds
        exact Bool.noConfusion (reached.symm.trans half)
      exact ih base inside

/-- What reaches infinity reaches the smallest positive double. -/
theorem reaches_one_of_infinity {d : Decimal} (reached : reaches d infinityRank = true) :
    reaches d 1 = true := reaches_of_le (by decide) reached

theorem nearestRank_of_reaches_infinity {d : Decimal} (reached : reaches d infinityRank = true) :
    nearestRank d = infinityRank := by
  have one := reaches_one_of_infinity reached
  unfold nearestRank
  split_ifs with zero large small
  · exact Bool.noConfusion (one.symm.trans (not_reaches_one_of_digits_eq_zero zero))
  · rfl
  · exact Bool.noConfusion (one.symm.trans (not_reaches_one small))
  · have inRange : infinityRank < 0 + 2 ^ 63 := by decide
    exact Nat.min_eq_left (le_bisect reaches_of_le reached 63 0 inRange)

theorem nearestRank_lt_of_not_reaches_infinity {d : Decimal}
    (missed : reaches d infinityRank = false) : nearestRank d < infinityRank := by
  -- the ranks reached are an initial segment that ends before infinity
  have ends : ∃ rank, reaches d (rank + 1) = false := ⟨infinityRank - 1, missed⟩
  let last := Nat.find ends
  have next : reaches d (last + 1) = false := Nat.find_spec ends
  have before : last < infinityRank := by
    have bound : last ≤ infinityRank - 1 := Nat.find_min' ends missed
    have positive : 0 < infinityRank := by decide
    omega
  have reached : reaches d last = true := by
    cases front : last with
    | zero => rfl
    | succ below =>
      have earlier : below < Nat.find ends := by omega
      exact Bool.eq_true_of_not_eq_false (Nat.find_min ends earlier)
  rw [nearestRank_of_readsBack before (readsBack_iff.mpr ⟨reached, next⟩)]
  exact before

theorem nearestRank_le (d : Decimal) : nearestRank d ≤ infinityRank := by
  cases reached : reaches d infinityRank with
  | true => exact (nearestRank_of_reaches_infinity reached).le
  | false => exact (nearestRank_lt_of_not_reaches_infinity reached).le

/-- The sign does not change the rank. -/
theorem rank_ofRank {negative : Bool} {rank : Nat} (bound : rank < 0x8000000000000000) :
    (ofRank negative rank).rank = rank := by
  have word : (if negative then 0x8000000000000000 + rank else rank) < UInt64.size := by
    split <;> simp only [UInt64.size] <;> omega
  rw [Binary64.rank, ofRank, UInt64.toNat_ofNat_of_lt' word]
  split <;> omega

/-- **The double nearest to a decimal is finite** exactly if the decimal does not reach infinity. -/
theorem isFinite_ofDecimal_iff (negative : Bool) (d : Decimal) :
    (ofDecimal negative d).isFinite = true ↔ reaches d infinityRank = false := by
  have bound : nearestRank d < 0x8000000000000000 :=
    Nat.lt_of_le_of_lt (nearestRank_le d) (by decide)
  rw [isFinite, ofDecimal, rank_ofRank bound, decide_eq_true_eq]
  cases reached : reaches d infinityRank with
  | true => simp [nearestRank_of_reaches_infinity reached]
  | false => simp [nearestRank_lt_of_not_reaches_infinity reached]

/-! ## Integers -/

/-- The least magnitude of an integer whose nearest double is infinite: halfway between the largest
double and 2 ^ 1024. -/
def overflow : Nat := 2 ^ 1024 - 2 ^ 970

theorem midpoint_overflow : midpoint (infinityRank - 1) = halvesInOne * overflow := by
  decide +kernel

theorem reaches_infinity_iff_overflow (n : Nat) :
    reaches ⟨n, 0⟩ infinityRank = true ↔ overflow ≤ n := by
  obtain ⟨below, isNext⟩ : ∃ below, infinityRank = below + 1 := ⟨infinityRank - 1, rfl⟩
  have midway : midpoint below = halvesInOne * overflow := by
    rw [← midpoint_overflow, isNext, Nat.add_sub_cancel]
  have even : (below + 1) % 2 = 0 := by
    rw [← isNext]
    decide
  have value : Decimal.halves ⟨n, 0⟩ = ((halvesInOne * n : Nat) : ℚ) := by
    rw [Decimal.halves, zpow_zero, mul_one, Nat.cast_mul]
  rw [isNext, reaches_succ, midway, value, Nat.cast_lt, Nat.cast_inj,
    Nat.mul_lt_mul_left halvesInOne_pos, Nat.mul_right_inj halvesInOne_pos.ne', and_iff_left even]
  omega

/-- **The double nearest to an integer is finite** exactly below that magnitude. -/
theorem isFinite_ofInt_iff (n : Int) : (ofInt n).isFinite = true ↔ n.natAbs < overflow := by
  rw [ofInt, isFinite_ofDecimal_iff, ← Bool.not_eq_true, reaches_infinity_iff_overflow,
    Nat.not_le]

end Statements.Binary64
