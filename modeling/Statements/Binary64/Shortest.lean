import Statements.Binary64.Decimal

/-!
# The shortest decimal of a double

The text of a double is the decimal with the fewest digits that rounds to it, and the nearest of
those if there are several. For one digit, two digits and so on, the two neighbours of the double
on the decimal grid of that many digits are tried with `readsBack`; the first grid with a hit gives
the answer. Seventeen digits are enough for every double, and the exact value stands in for a grid
that was not found, so that the answer always reads back.
-/

namespace Statements

/-- What becomes of a double exactly between the two neighbours that both round to it. -/
inductive Tie where
  | toEven
  | upward
deriving DecidableEq

namespace Binary64

/-- The least power of ten above the magnitude of a rank, so that a leading digit stands just
after the point. A binary logarithm locates it to within two, and a comparison settles it. -/
def decimalPoint (rank : Nat) : Int :=
  let guess : Int := (((units rank).log2 : Int) - 1074) * 30103 / 100000
  let above (point : Int) : Bool := (Decimal.mk 1 point).compareHalves (2 * units rank) == .gt
  if above guess then guess
  else if above (guess + 1) then guess + 1
  else guess + 2

/-- The greatest multiple of a power of ten that does not exceed the magnitude. -/
def gridBelow (rank : Nat) (exponent : Int) : Nat :=
  units rank * Nat.pow 10 (-exponent).toNat / (Nat.pow 2 1074 * Nat.pow 10 exponent.toNat)

/-- The two neighbours of the magnitude on a decimal grid, the nearer one first. -/
def neighbours (tie : Tie) (rank : Nat) (exponent : Int) : List Decimal :=
  let below := gridBelow rank exponent
  let lower : Decimal := ⟨below, exponent⟩
  let upper : Decimal := ⟨below + 1, exponent⟩
  match (Decimal.mk (2 * below + 1) exponent).compareHalves (4 * units rank) with
  | .gt => [lower, upper]
  | .lt => [upper, lower]
  | .eq =>
    match tie with
    | .upward => [upper, lower]
    | .toEven => if below % 2 = 0 then [lower, upper] else [upper, lower]

/-- The nearer neighbour on a decimal grid that rounds to the rank, if one does. -/
def onGrid? (tie : Tie) (rank : Nat) (exponent : Int) : Option Decimal :=
  (neighbours tie rank exponent).find? (readsBack rank)

/-- The magnitude written out in full. -/
def exactDecimal (rank : Nat) : Decimal := ⟨Nat.pow 5 1074 * units rank, -1074⟩

/-- The decimal of fewest digits that rounds to the rank. -/
def shortest (tie : Tie) (rank : Nat) : Decimal :=
  let point := decimalPoint rank
  ((List.range 17).findSome? fun (more : Nat) => onGrid? tie rank (point - 1 - more)).getD
    (exactDecimal rank)

end Binary64

end Statements
