import Mathlib.Data.List.Forall2
import Statements.Proofs.Scalar.Literal
import Statements.Proofs.Text.Listing

/-!
# Equal scalars and their literals

Scalars are compared as numbers, and that differs from being the same in two ways: a scalar that is
no number differs from itself, and the two zeros are equal. So equal scalars are the same one, which
is a number, or opposite zeros (`Scalar.beq_iff`).

Opposite zeros are written apart: one literal has a sign and the other does not, so neither begins
with the other. A list is written from its front, so the first place where two equal lists hold
opposite zeros tells their texts apart, whatever stands behind it (`Scalar.apart_listing`). Equal
lists without such a place are one list (`Scalar.eq_of_not_opposed`).

Whatever holds scalars inherits their equality (`PartialEquality`): it can be turned round and
chained, and only what holds no double that is no number equals itself. Lists and parts pass this
on, so it is shown of scalars and then of each thing by what it is made of.
-/

namespace Statements

open Text (listing Apart)

/-- Lists are equal if they are equal entry by entry. -/
theorem list_beq_iff {α : Type} [BEq α] {xs ys : List α} :
    (xs == ys) = true ↔ List.Forall₂ (fun x y => (x == y) = true) xs ys := by
  induction xs generalizing ys with
  | nil => cases ys <;> simp
  | cons x xs ih =>
    cases ys with
    | nil => simp
    | cons y ys => rw [List.cons_beq_cons, Bool.and_eq_true, ih, List.forall₂_cons]

/-! ## Doubles -/

namespace Binary64

variable {x y : Binary64}

/-- Zeros of different signs. -/
def Opposite (x y : Binary64) : Prop :=
  x.isZero = true ∧ y.isZero = true ∧ x.isNegative ≠ y.isNegative

instance (x y : Binary64) : Decidable (x.Opposite y) := inferInstanceAs (Decidable (_ ∧ _ ∧ _))

theorem rank_of_isZero (zero : x.isZero = true) : x.rank = 0 := of_decide_eq_true zero

theorem isNaN_of_isZero (zero : x.isZero = true) : x.isNaN = false := by
  rw [isNaN, rank_of_isZero zero]
  rfl

theorem isFinite_of_isZero (zero : x.isZero = true) : x.isFinite = true := by
  rw [isFinite, rank_of_isZero zero]
  rfl

/-- A zero is its sign. -/
theorem eq_of_isZero (zeroX : x.isZero = true) (zeroY : y.isZero = true)
    (sign : x.isNegative = y.isNegative) : x = y := by
  rw [← ofRank_rank x, ← ofRank_rank y, rank_of_isZero zeroX, rank_of_isZero zeroY, sign]

/-- Doubles agree if they are one number or opposite zeros. -/
theorem agrees_iff : x.agrees y = true ↔ x = y ∧ x.isNaN = false ∨ x.Opposite y := by
  simp only [agrees, Bool.and_eq_true, Bool.not_eq_true', Bool.or_eq_true, beq_iff_eq]
  constructor
  · rintro ⟨⟨number, -⟩, same | ⟨zeroX, zeroY⟩⟩
    · exact .inl ⟨same, number⟩
    · by_cases sign : x.isNegative = y.isNegative
      · exact .inl ⟨eq_of_isZero zeroX zeroY sign, number⟩
      · exact .inr ⟨zeroX, zeroY, sign⟩
  · rintro (⟨rfl, number⟩ | ⟨zeroX, zeroY, -⟩)
    · exact ⟨⟨number, number⟩, .inl rfl⟩
    · exact ⟨⟨isNaN_of_isZero zeroX, isNaN_of_isZero zeroY⟩, .inr ⟨zeroX, zeroY⟩⟩

end Binary64

namespace Scalar

/-! ## Scalars -/

/-- The scalar is no number although it is a double. -/
def isNaN : Scalar → Bool
  | .float x => x.isNaN
  | _ => false

/-- Zeros of different signs. -/
def Opposite : Scalar → Scalar → Prop
  | .float x, .float y => x.Opposite y
  | _, _ => False

instance : (v w : Scalar) → Decidable (v.Opposite w)
  | .float x, .float y => inferInstanceAs (Decidable (x.Opposite y))
  | .float _, .null | .float _, .bool _ | .float _, .signed _ | .float _, .unsigned _
  | .float _, .text _ | .null, _ | .bool _, _ | .signed _, _ | .unsigned _, _ | .text _, _ =>
    inferInstanceAs (Decidable False)

variable {v w : Scalar}

/-- **Equal scalars** are one scalar, which is a number if it is a double, or opposite zeros. -/
theorem beq_iff : (v == w) = true ↔ v = w ∧ v.isNaN = false ∨ v.Opposite w := by
  cases v <;> cases w
  case null.null => exact iff_of_true rfl (.inl ⟨rfl, rfl⟩)
  case bool.bool b c =>
    show (b == c) = true ↔ _
    simp [isNaN, Opposite]
  case signed.signed m n =>
    show (m == n) = true ↔ _
    simp [isNaN, Opposite]
  case unsigned.unsigned m n =>
    show (m == n) = true ↔ _
    simp [isNaN, Opposite]
  case float.float x y =>
    show x.agrees y = true ↔ _
    rw [Binary64.agrees_iff]
    simp [isNaN, Opposite]
  case text.text s t =>
    show (s == t) = true ↔ _
    simp [isNaN, Opposite]
  -- scalars of two kinds
  all_goals exact iff_of_false Bool.false_ne_true (by simp [Opposite])

theorem Opposite.exists_float (opposite : v.Opposite w) :
    ∃ x y, v = .float x ∧ w = .float y ∧ x.Opposite y := by
  cases v <;> cases w
  case float.float x y => exact ⟨x, y, rfl, rfl, opposite⟩
  all_goals exact opposite.elim

theorem Opposite.symm (opposite : v.Opposite w) : w.Opposite v := by
  obtain ⟨x, y, rfl, rfl, zeroX, zeroY, signs⟩ := opposite.exists_float
  exact ⟨zeroY, zeroX, signs.symm⟩

/-- There are only two zeros. -/
theorem Opposite.eq_of_opposite {u : Scalar} (left : u.Opposite v) (right : v.Opposite w) :
    u = w := by
  obtain ⟨x, y, rfl, rfl, zeroX, -, signs⟩ := left.exists_float
  obtain ⟨_, z, same, rfl, -, zeroZ, signs'⟩ := right.exists_float
  obtain rfl := Scalar.float.inj same
  have sign : x.isNegative = z.isNegative := by
    rw [Bool.eq_not_of_ne signs, Bool.eq_not_of_ne signs'.symm]
  rw [Binary64.eq_of_isZero zeroX zeroZ sign]

theorem Opposite.irrefl : ¬ v.Opposite v := by
  intro opposite
  obtain ⟨x, y, left, right, -, -, signs⟩ := opposite.exists_float
  obtain rfl := Scalar.float.inj (left.symm.trans right)
  exact signs rfl

theorem Opposite.isNaN_eq_false (opposite : v.Opposite w) : v.isNaN = false := by
  obtain ⟨x, y, rfl, -, zero, -⟩ := opposite.exists_float
  exact Binary64.isNaN_of_isZero zero

/-! ## Literals -/

/-- Only the sign of a zero is written before its digit. -/
theorem literal_of_isZero {x : Binary64} (zero : x.isZero = true) :
    literal (.float x) = if x.isNegative then "-0" else "0" := by
  have number : ¬ x.isNaN = true := Bool.eq_false_iff.mp (Binary64.isNaN_of_isZero zero)
  have magnitude : floatLayout.magnitude 0 = ['0'] := rfl
  show floatText x = _
  rw [floatText, if_neg number, if_pos (Binary64.isFinite_of_isZero zero), Binary64.Layout.chars,
    Binary64.rank_of_isZero zero, magnitude]
  split <;> rfl

/-- Opposite zeros differ where their literals begin. -/
theorem Opposite.apart_literal (opposite : v.Opposite w) :
    Apart v.literal.toList w.literal.toList := by
  obtain ⟨x, y, rfl, rfl, zeroX, zeroY, signs⟩ := opposite.exists_float
  rw [literal_of_isZero zeroX, literal_of_isZero zeroY, Bool.eq_not_of_ne signs]
  cases y.isNegative <;> decide

/-! ## Lists of scalars -/

/-- At some place the two lists hold opposite zeros. -/
def Opposed (vs ws : List Scalar) : Prop := ∃ pair ∈ vs.zip ws, pair.1.Opposite pair.2

instance (vs ws : List Scalar) : Decidable (Opposed vs ws) :=
  inferInstanceAs (Decidable (∃ pair ∈ vs.zip ws, pair.1.Opposite pair.2))

variable {vs ws : List Scalar}

theorem not_opposed_nil : ¬ Opposed [] [] := by simp [Opposed]

theorem opposed_cons : Opposed (v :: vs) (w :: ws) ↔ v.Opposite w ∨ Opposed vs ws := by
  simp only [Opposed, List.zip_cons_cons, List.exists_mem_cons_iff]

/-- Equal lists are one list but for opposite zeros. -/
theorem eq_of_not_opposed (alike : (vs == ws) = true) (none : ¬ Opposed vs ws) : vs = ws := by
  rw [list_beq_iff] at alike
  induction alike with
  | nil => rfl
  | cons head _ ih =>
    rw [opposed_cons, not_or] at none
    obtain ⟨here, later⟩ := none
    rcases beq_iff.mp head with ⟨same, -⟩ | opposite
    · rw [same, ih later]
    · exact absurd opposite here

/-- **The first opposite zeros tell two lists apart.** -/
theorem apart_listing (alike : (vs == ws) = true) (opposed : Opposed vs ws) :
    Apart (listing (vs.map literal)) (listing (ws.map literal)) := by
  rw [list_beq_iff] at alike
  induction alike with
  | nil => exact absurd opposed not_opposed_nil
  | cons head tail ih =>
    rw [opposed_cons] at opposed
    cases tail with
    | nil =>
      rw [List.map_singleton, List.map_singleton, Text.listing_singleton, Text.listing_singleton]
      exact (opposed.resolve_right not_opposed_nil).apart_literal
    | @cons next next' vs ws _ _ =>
      simp only [List.map_cons, Text.listing_cons_cons] at ih ⊢
      rcases beq_iff.mp head with ⟨rfl, -⟩ | opposite
      -- the texts agree here and differ later; after opposite zeros it does not matter what follows
      · have later := opposed.resolve_left Opposite.irrefl
        exact ((ih later).append_left [',', ' ']).append_left _
      · exact opposite.apart_literal.append_right _ _

end Scalar

/-! ## What holds scalars -/

/-- Equality of things that hold scalars: it can be turned round and chained, and whatever holds no
scalar that differs from itself equals itself. -/
structure PartialEquality {α : Type} [BEq α] (held : α → List Scalar) : Prop where
  symm : ∀ {a b : α}, (a == b) = true → (b == a) = true
  trans : ∀ {a b c : α}, (a == b) = true → (b == c) = true → (a == c) = true
  self_iff : ∀ {a : α}, (a == a) = true ↔ ∀ scalar ∈ held a, scalar.isNaN = false

namespace PartialEquality

theorem scalar : PartialEquality fun v : Scalar => [v] where
  symm := by
    intro v w alike
    rw [Scalar.beq_iff] at alike ⊢
    rcases alike with ⟨rfl, number⟩ | opposite
    · exact .inl ⟨rfl, number⟩
    · exact .inr opposite.symm
  trans := by
    intro u v w left right
    rw [Scalar.beq_iff] at left right ⊢
    rcases left with ⟨rfl, -⟩ | opposite
    · exact right
    rcases right with ⟨rfl, -⟩ | opposite'
    · exact .inr opposite
    · exact .inl ⟨opposite.eq_of_opposite opposite', opposite.isNaN_eq_false⟩
  self_iff := by
    intro v
    rw [Scalar.beq_iff, or_iff_left Scalar.Opposite.irrefl, List.forall_mem_singleton]
    exact and_iff_right rfl

variable {α β γ : Type} [BEq α] [BEq β] {held : α → List Scalar}

/-- A list holds what its entries hold. -/
theorem list (equality : PartialEquality held) :
    PartialEquality fun xs : List α => xs.flatMap held where
  symm := by
    intro xs ys alike
    rw [list_beq_iff] at alike ⊢
    exact (alike.imp fun _ _ same => equality.symm same).flip
  trans := by
    intro xs ys zs left right
    rw [list_beq_iff] at left right ⊢
    induction left generalizing zs with
    | nil => exact right
    | cons head _ ih =>
      obtain ⟨z, zs, next, more, rfl⟩ := List.forall₂_cons_left_iff.mp right
      exact .cons (equality.trans head next) (ih more)
  self_iff := by
    intro xs
    simp only [list_beq_iff, List.forall₂_same, equality.self_iff, List.forall_mem_flatMap]

/-- Something that holds scalars in a part of it, and whose equality asks only that all else be the
same, holds what the part holds. -/
theorem framed (equality : PartialEquality held) (frame : β → γ) (part : β → α)
    (agree : ∀ {b c : β}, (b == c) = true ↔ frame b = frame c ∧ (part b == part c) = true) :
    PartialEquality fun b => held (part b) where
  symm := by
    intro b c alike
    obtain ⟨frames, parts⟩ := agree.mp alike
    exact agree.mpr ⟨frames.symm, equality.symm parts⟩
  trans := by
    intro b c d left right
    obtain ⟨frames, parts⟩ := agree.mp left
    obtain ⟨frames', parts'⟩ := agree.mp right
    exact agree.mpr ⟨frames.trans frames', equality.trans parts parts'⟩
  self_iff := by
    intro b
    rw [agree, and_iff_right rfl, equality.self_iff]

/-- A list of scalars holds its entries. -/
theorem scalars : PartialEquality fun vs : List Scalar => vs := by
  simpa only [List.flatMap_singleton'] using scalar.list

end PartialEquality

end Statements
