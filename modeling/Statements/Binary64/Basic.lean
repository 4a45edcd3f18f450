/-!
# Double-precision numbers as bits

A double is held as its 64 bits, so that rendering, reading and equality are statements about
integers. Without its sign bit a double is its **rank**: the non-negative doubles in increasing
order are the ranks 0, 1, 2, …, infinity has the rank `infinityRank`, and the ranks above it are
the NaNs. `units` gives the magnitude of a finite rank as a whole number of the smallest positive
double, which is 2 ^ -1074.
-/

namespace Statements

/-- A double-precision number, held as its bits. -/
structure Binary64 where
  bits : UInt64
deriving DecidableEq

namespace Binary64

/-- The rank of infinity: all exponent bits set and no fraction bit. -/
def infinityRank : Nat := 2047 * 0x10000000000000

/-- The place of the magnitude among the non-negative doubles in increasing order. -/
def rank (x : Binary64) : Nat := x.bits.toNat % 0x8000000000000000

/-- Whether the sign bit is set, which it may be for a zero too. -/
def isNegative (x : Binary64) : Bool := 0x8000000000000000 ≤ x.bits.toNat

/-- Either zero. -/
def isZero (x : Binary64) : Bool := x.rank = 0

/-- Neither infinite nor a NaN. -/
def isFinite (x : Binary64) : Bool := x.rank < infinityRank

/-- Not a number. -/
def isNaN (x : Binary64) : Bool := infinityRank < x.rank

/-- The double of a sign and a rank. -/
def ofRank (negative : Bool) (rank : Nat) : Binary64 :=
  ⟨UInt64.ofNat (if negative then 0x8000000000000000 + rank else rank)⟩

/-- Doubles agree as numbers: the two zeros are equal, and a NaN differs from everything,
itself included. -/
def agrees (x y : Binary64) : Bool :=
  !x.isNaN && !y.isNaN && (x == y || x.isZero && y.isZero)

/-- The magnitude of a rank as a multiple of 2 ^ -1074. The first 2 ^ 52 ranks are one unit apart,
and each later block of 2 ^ 52 ranks has twice the spacing of the block before. -/
def units (rank : Nat) : Nat :=
  if rank < 0x10000000000000 then rank
  else (0x10000000000000 + rank % 0x10000000000000) * Nat.pow 2 (rank / 0x10000000000000 - 1)

/-- Halfway between a rank and the next, as a multiple of 2 ^ -1075. -/
def midpoint (rank : Nat) : Nat := units rank + units (rank + 1)

end Binary64

end Statements
