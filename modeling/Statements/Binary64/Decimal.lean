import Statements.Binary64.Basic

/-!
# Decimals and the doubles nearest to them

A decimal is a whole number of digits times a power of ten. It reads as the double nearest to it,
and exactly between two doubles as the one of even rank. That rule is one comparison, `reaches`:
a decimal reaches a rank when it lies at or past the midpoint below that rank, the midpoint itself
counting for an even rank only. The ranks that a decimal reaches are an initial segment, so the
nearest rank is the last one reached, and `bisect` finds it. All arithmetic is on whole numbers.
-/

namespace Statements

/-- The number `digits` · 10 ^ `exponent`. -/
structure Decimal where
  digits : Nat
  exponent : Int
deriving DecidableEq

/-- One is that many halves of the smallest positive double. The number is not unfolded, so that
no comparison is evaluated before its decimal is known. -/
@[irreducible] def halvesInOne : Nat := Nat.pow 2 1075

/-- Compare a decimal with a multiple of 2 ^ -1075, exactly. -/
def Decimal.compareHalves (d : Decimal) (halves : Nat) : Ordering :=
  compare (halvesInOne * d.digits * Nat.pow 10 d.exponent.toNat)
    (halves * Nat.pow 10 (-d.exponent).toNat)

/-- The decimal lies past a multiple of 2 ^ -1075, or at it where that counts. -/
def Decimal.passes (d : Decimal) (halves : Nat) (inclusive : Bool) : Bool :=
  match d.compareHalves halves with
  | .gt => true
  | .eq => inclusive
  | .lt => false

namespace Binary64

/-- The decimal lies at or past the midpoint below the rank. -/
def reaches (d : Decimal) : Nat → Bool
  | 0 => true
  | below + 1 => d.passes (midpoint below) ((below + 1) % 2 = 0)

/-- The decimal rounds to that rank: it reaches the rank and not the next one. -/
def readsBack (rank : Nat) (d : Decimal) : Bool :=
  reaches d rank && !reaches d (rank + 1)

/-- The last number from `base` on, within `2 ^ bits`, at which `p` holds, when `p` holds of an
initial segment that includes `base`: one bit of the distance is settled at a time. -/
def bisect (p : Nat → Bool) : (bits base : Nat) → Nat
  | 0, base => base
  | bits + 1, base =>
    let half := base + Nat.pow 2 bits
    if p half then bisect p bits half else bisect p bits base

/-- The rank of the double nearest to a decimal. Decimals above 10 ^ 400 and below 2 ^ -1080 are
settled by their size alone, so that the powers of ten stay small. -/
def nearestRank (d : Decimal) : Nat :=
  if d.digits = 0 then 0
  else if 400 < d.exponent then infinityRank
  else if (d.digits.log2 : Int) + 1100 < 3 * -d.exponent then 0
  else min infinityRank (bisect (reaches d) 63 0)

/-- The double nearest to a signed decimal. A magnitude past the largest double is infinite. -/
def ofDecimal (negative : Bool) (d : Decimal) : Binary64 :=
  ofRank negative (nearestRank d)

/-- The double nearest to an integer. -/
def ofInt (n : Int) : Binary64 := ofDecimal (n < 0) ⟨n.natAbs, 0⟩

end Binary64

end Statements
