import Statements.Binary64.Shortest

/-!
# Laying out the digits of a double

Which digits stand for a double is settled by `shortest`; a `Layout` settles how they are written:
for which exponents the point stands among the digits, and whether a whole number shows a
fraction. Texts are lists of characters here, which is what the readers take.
-/

namespace Statements

namespace Binary64

/-- The significant digits of a magnitude, without trailing zeros, and the place of the point
counted from the first of them. -/
structure Figures where
  digits : List Char
  point : Int

/-- Trailing zeros say nothing about the value: the point is counted from the front. -/
def Figures.ofDecimal (d : Decimal) : Figures :=
  let written := Nat.toDigits 10 d.digits
  { digits := (written.reverse.dropWhile (· = '0')).reverse
    point := written.length + d.exponent }

/-- The figures of a finite magnitude. Zero is the digit 0 before the point. -/
def figures (tie : Tie) (rank : Nat) : Figures :=
  if rank = 0 then ⟨['0'], 1⟩ else Figures.ofDecimal (shortest tie rank)

/-- How a finite double is written. -/
structure Layout where
  /-- The exponents of the leading digit that are written with a point only; others are written
  with an exponent. -/
  plain : Int → Bool
  /-- A whole number shows the fraction 0. -/
  wholeFraction : Bool
  /-- Which of two equally near shortest decimals is taken. -/
  tie : Tie

/-- A whole number of the given digits and a possible fraction 0. -/
def Layout.whole (layout : Layout) (digits : List Char) : List Char :=
  digits ++ if layout.wholeFraction then ['.', '0'] else []

/-- Digits with a point among, before or after them. -/
def Layout.positional (layout : Layout) (f : Figures) : List Char :=
  if f.point ≤ 0 then
    '0' :: '.' :: (List.replicate (-f.point).toNat '0' ++ f.digits)
  else if f.point.toNat < f.digits.length then
    f.digits.take f.point.toNat ++ '.' :: f.digits.drop f.point.toNat
  else
    layout.whole (f.digits ++ List.replicate (f.point.toNat - f.digits.length) '0')

/-- The leading digit, the others after a point, and the exponent with its sign. -/
def scientific (f : Figures) : List Char :=
  let exponent := f.point - 1
  let fraction := f.digits.drop 1
  f.digits.take 1 ++ (if fraction = [] then [] else '.' :: fraction) ++
    'e' :: (if exponent < 0 then '-' else '+') :: Nat.toDigits 10 exponent.natAbs

/-- The text of a finite magnitude. -/
def Layout.magnitude (layout : Layout) (rank : Nat) : List Char :=
  let f := figures layout.tie rank
  if layout.plain (f.point - 1) then layout.positional f else scientific f

/-- The text of a finite double. The sign of a zero is written too. -/
def Layout.chars (layout : Layout) (x : Binary64) : List Char :=
  if x.isNegative then '-' :: layout.magnitude x.rank else layout.magnitude x.rank

end Binary64

end Statements
