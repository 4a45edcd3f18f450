import Statements.Proofs.Text.Plain

/-!
# Texts listed with commas

Statements list columns and values with a comma and a blank between them, and nothing in the text
says how many there are. If the end of each listed text can be told from the delimiter behind it,
then the list can be read off, as long as something other than a comma stands behind the last of
them (`listing_append_unique`). Plain texts have this property, and others have it for reasons of
their own.

Texts that merely contain no comma can be read off where their number is known from elsewhere
(`listing_unique`). It has to be: no texts and one empty text are listed alike.
-/

namespace Statements.Text

/-- The texts with a comma and a blank between them. -/
def listing (texts : List String) : List Char := (", ".intercalate texts).toList

theorem listing_singleton (text : String) : listing [text] = text.toList := by
  rw [listing, String.intercalate_singleton]

theorem listing_cons_cons (text next : String) (texts : List String) :
    listing (text :: next :: texts) = text.toList ++ ',' :: ' ' :: listing (next :: texts) := by
  simp only [listing, String.intercalate_cons_cons, String.toList_append, List.append_assoc]
  rfl

/-- A character of a listing is one of a text, or stands between two of them. -/
theorem mem_listing {texts : List String} {c : Char} (mem : c ∈ listing texts) :
    (∃ text ∈ texts, c ∈ text.toList) ∨ c = ',' ∨ c = ' ' := by
  induction texts with
  | nil => exact nomatch mem
  | cons text texts ih =>
    cases texts with
    | nil =>
      rw [listing_singleton] at mem
      exact .inl ⟨text, List.mem_cons_self, mem⟩
    | cons next texts =>
      rw [listing_cons_cons] at mem
      rcases List.mem_append.mp mem with here | later
      · exact .inl ⟨text, List.mem_cons_self, here⟩
      rcases List.mem_cons.mp later with comma | later
      · exact .inr (.inl comma)
      rcases List.mem_cons.mp later with blank | later
      · exact .inr (.inr blank)
      · exact (ih later).imp_left fun ⟨text, among, here⟩ =>
          ⟨text, List.mem_cons_of_mem _ among, here⟩

/-! ## Texts that end at a delimiter -/

/-- The texts of a class and what follows them can be told from the characters, where a delimiter
follows. -/
def EndsAtDelimiter (inClass : String → Prop) : Prop :=
  ∀ {p q : String} {r s : List Char}, inClass p → inClass q → Breaks r → Breaks s →
    p.toList ++ r = q.toList ++ s → p = q ∧ r = s

theorem endsAtDelimiter_plain : EndsAtDelimiter Plain := Plain.append_unique

/-- A delimiter that is no comma stands at the front. -/
def Closes : List Char → Prop
  | [] => False
  | c :: _ => isDelimiter c = true ∧ c ≠ ','

theorem Closes.breaks {rest : List Char} (closes : Closes rest) : Breaks rest := by
  cases rest with
  | nil => exact closes
  | cons c rest => exact closes.1

theorem not_closes_comma (rest : List Char) : ¬ Closes (',' :: rest) := fun closes => closes.2 rfl

/-- **A listing can be read off**: the texts, and what closes it. -/
theorem listing_append_unique {inClass : String → Prop} (ends : EndsAtDelimiter inClass)
    {xs ys : List String} {r s : List Char} (someLeft : xs ≠ []) (someRight : ys ≠ [])
    (left : ∀ x ∈ xs, inClass x) (right : ∀ y ∈ ys, inClass y) (closesLeft : Closes r)
    (closesRight : Closes s) (same : listing xs ++ r = listing ys ++ s) : xs = ys ∧ r = s := by
  have comma : ∀ rest, Breaks (',' :: rest) := fun _ => rfl
  induction xs generalizing ys with
  | nil => exact absurd rfl someLeft
  | cons x xs ih =>
    obtain _ | ⟨y, ys⟩ := ys
    · exact absurd rfl someRight
    obtain ⟨firstX, othersX⟩ := List.forall_mem_cons.mp left
    obtain ⟨firstY, othersY⟩ := List.forall_mem_cons.mp right
    cases xs with
    | nil =>
      rw [listing_singleton] at same
      cases ys with
      | nil =>
        rw [listing_singleton] at same
        obtain ⟨rfl, tails⟩ := ends firstX firstY closesLeft.breaks closesRight.breaks same
        exact ⟨rfl, tails⟩
      | cons next ys =>
        rw [listing_cons_cons, List.append_assoc] at same
        obtain ⟨-, tails⟩ := ends firstX firstY closesLeft.breaks (comma _) same
        exact absurd (tails ▸ closesLeft) (not_closes_comma _)
    | cons next xs =>
      rw [listing_cons_cons, List.append_assoc] at same
      cases ys with
      | nil =>
        rw [listing_singleton] at same
        obtain ⟨-, tails⟩ := ends firstX firstY (comma _) closesRight.breaks same
        exact absurd (tails ▸ closesRight) (not_closes_comma _)
      | cons next' ys =>
        rw [listing_cons_cons, List.append_assoc] at same
        obtain ⟨rfl, tails⟩ := ends firstX firstY (comma _) (comma _) same
        obtain ⟨-, later⟩ := List.cons.inj tails
        obtain ⟨others, closings⟩ := ih (List.cons_ne_nil _ _) (List.cons_ne_nil _ _) othersX
          othersY (List.cons.inj later).2
        exact ⟨congrArg (x :: ·) others, closings⟩

/-! ## As many texts without commas -/

/-- As many texts without commas are listed alike only if they are the same. -/
theorem listing_unique {xs ys : List String} (length : xs.length = ys.length)
    (left : ∀ x ∈ xs, ',' ∉ x.toList) (right : ∀ y ∈ ys, ',' ∉ y.toList)
    (same : listing xs = listing ys) : xs = ys := by
  induction xs generalizing ys with
  | nil => exact (List.eq_nil_of_length_eq_zero length.symm).symm
  | cons x xs ih =>
    obtain _ | ⟨y, ys⟩ := ys
    · cases length
    obtain ⟨firstX, othersX⟩ := List.forall_mem_cons.mp left
    obtain ⟨firstY, othersY⟩ := List.forall_mem_cons.mp right
    have length := Nat.succ.inj length
    cases xs with
    | nil =>
      obtain rfl := List.eq_nil_of_length_eq_zero length.symm
      rw [listing_singleton, listing_singleton] at same
      rw [String.toList_injective same]
    | cons next xs =>
      obtain _ | ⟨next', ys⟩ := ys
      · cases length
      rw [listing_cons_cons, listing_cons_cons] at same
      obtain ⟨texts, tails⟩ := append_cons_unique firstX firstY same
      rw [String.toList_injective texts, ih length othersX othersY (List.cons.inj tails).2]

end Statements.Text
