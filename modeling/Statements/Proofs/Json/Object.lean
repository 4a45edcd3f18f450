import Statements.Proofs.Entries.Collapse
import Statements.Proofs.Except
import Statements.Json.Reader

/-!
# The members that a text writes

The member loop takes the reader of the values as an argument, so two readers of values give two
readers of objects. If one reader of values answers exactly where the other does, and something
that is related to what the other answers, then the same holds of the readers of objects, member by
member (`Refines.members`). The loop itself is gone through once, one member at a time.

A JSON value does not show all that its text wrote: of a repeated name it keeps one entry.
`writtenMembers` is what the text of an object says before that, and a text stands for an object of
given members exactly if the members that it writes collapse to them (`parse_eq_object`).
-/

namespace Statements.Json

namespace Reader

variable {α β : Type}

/-- The finer reader answers exactly where the other one does, stops at the same place, and its
answer is related to the other's. -/
def Refines (rel : α → β → Prop) (fine : Reader β) (coarse : Reader α) : Prop :=
  ∀ text answer rest, fine text = .ok (answer, rest) ↔
    ∃ whole, coarse text = .ok (whole, rest) ∧ rel whole answer

/-! ## One member -/

/-- A name, a colon and a value. -/
def member (value : Reader α) : Reader (String × α) := fun text =>
  match skipBlank text with
  | '"' :: text => do
    let (name, text) ← string text
    match skipBlank text with
    | ':' :: text => do
      let (first, text) ← value text
      .ok ((name, first), text)
    | _ => malformed
  | _ => malformed

theorem member_eq_ok {value : Reader α} {text rest : List Char} {entry : String × α} :
    member value text = .ok (entry, rest) ↔
      ∃ quoted named behind, skipBlank text = '"' :: quoted ∧
        string quoted = .ok (entry.1, named) ∧ skipBlank named = ':' :: behind ∧
        value behind = .ok (entry.2, rest) := by
  constructor
  · intro taken
    unfold member at taken
    split at taken
    · next quoted front =>
      obtain ⟨⟨name, named⟩, spelled, taken⟩ := bind_eq_ok.mp taken
      dsimp only at taken
      split at taken
      · next behind colon =>
        obtain ⟨⟨first, left⟩, answer, done⟩ := bind_eq_ok.mp taken
        cases done
        exact ⟨quoted, named, behind, front, spelled, colon, answer⟩
      · cases taken
    · cases taken
  · rintro ⟨quoted, named, behind, front, spelled, colon, answer⟩
    unfold member
    rw [front]
    refine bind_eq_ok.mpr ⟨(entry.1, named), spelled, ?_⟩
    dsimp only
    rw [colon]
    exact bind_eq_ok.mpr ⟨(entry.2, rest), answer, rfl⟩

/-- In one round the loop takes a member, and then the other members or the end. -/
theorem membersFrom_succ_eq_ok {value : Reader α} {rounds : Nat} {text rest : List Char}
    {entries : Entries α} :
    membersFrom value (rounds + 1) text = .ok (entries, rest) ↔
      ∃ entry behind, member value text = .ok (entry, behind) ∧
        ((∃ more others, skipBlank behind = ',' :: more ∧
            membersFrom value rounds more = .ok (others, rest) ∧ entries = entry :: others) ∨
          skipBlank behind = '}' :: rest ∧ entries = [entry]) := by
  constructor
  · intro taken
    rw [membersFrom] at taken
    split at taken
    · next quoted front =>
      obtain ⟨⟨name, named⟩, spelled, taken⟩ := bind_eq_ok.mp taken
      dsimp only at taken
      split at taken
      · next colon =>
        obtain ⟨⟨first, behind⟩, answer, onward⟩ := bind_eq_ok.mp taken
        refine ⟨(name, first), behind,
          member_eq_ok.mpr ⟨quoted, named, _, front, spelled, colon, answer⟩, ?_⟩
        dsimp only at onward
        split at onward
        · next more comma =>
          obtain ⟨⟨others, left⟩, looped, done⟩ := bind_eq_ok.mp onward
          cases done
          exact .inl ⟨more, others, comma, looped, rfl⟩
        · next left brace =>
          cases onward
          exact .inr ⟨brace, rfl⟩
        · cases onward
      · cases taken
    · cases taken
  · rintro ⟨⟨name, first⟩, behind, taken, closing⟩
    obtain ⟨quoted, named, valued, front, spelled, colon, answer⟩ := member_eq_ok.mp taken
    rw [membersFrom, front]
    refine bind_eq_ok.mpr ⟨(name, named), spelled, ?_⟩
    dsimp only
    rw [colon]
    refine bind_eq_ok.mpr ⟨(first, behind), answer, ?_⟩
    dsimp only
    rcases closing with ⟨more, others, comma, looped, rfl⟩ | ⟨brace, rfl⟩
    · rw [comma]
      exact bind_eq_ok.mpr ⟨(others, rest), looped, rfl⟩
    · rw [brace]
      rfl

/-! ## All members -/

section Refines

variable {rel : α → β → Prop} {fine : Reader β} {coarse : Reader α}

theorem Refines.member (refines : Refines rel fine coarse) :
    Refines (fun entry other => entry.1 = other.1 ∧ rel entry.2 other.2)
      (member fine) (member coarse) := by
  intro text other rest
  constructor
  · intro taken
    obtain ⟨quoted, named, behind, front, spelled, colon, answer⟩ := member_eq_ok.mp taken
    obtain ⟨whole, read, related⟩ := (refines _ _ _).mp answer
    exact ⟨(other.1, whole),
      member_eq_ok.mpr ⟨quoted, named, behind, front, spelled, colon, read⟩, rfl, related⟩
  · rintro ⟨entry, taken, names, related⟩
    obtain ⟨quoted, named, behind, front, spelled, colon, read⟩ := member_eq_ok.mp taken
    rw [names] at spelled
    exact member_eq_ok.mpr
      ⟨quoted, named, behind, front, spelled, colon, (refines _ _ _).mpr ⟨_, read, related⟩⟩

theorem Refines.membersFrom (refines : Refines rel fine coarse) (rounds : Nat) :
    Refines (Entries.Related rel) (membersFrom fine rounds) (membersFrom coarse rounds) := by
  induction rounds with
  | zero =>
    intro text others rest
    constructor
    · intro taken
      cases taken
    · rintro ⟨entries, taken, -⟩
      cases taken
  | succ rounds ih =>
    intro text others rest
    rw [membersFrom_succ_eq_ok]
    constructor
    · rintro ⟨first, behind, taken, closing⟩
      obtain ⟨entry, read, related⟩ := (refines.member _ _ _).mp taken
      rcases closing with ⟨more, later, comma, looped, rfl⟩ | ⟨brace, rfl⟩
      · obtain ⟨entries, reads, relateds⟩ := (ih _ _ _).mp looped
        refine ⟨entry :: entries, membersFrom_succ_eq_ok.mpr ⟨entry, behind, read, ?_⟩,
          .cons related relateds⟩
        exact .inl ⟨more, entries, comma, reads, rfl⟩
      · refine ⟨[entry], membersFrom_succ_eq_ok.mpr ⟨entry, behind, read, ?_⟩,
          .cons related .nil⟩
        exact .inr ⟨brace, rfl⟩
    · rintro ⟨entries, taken, relateds⟩
      obtain ⟨entry, behind, read, closing⟩ := membersFrom_succ_eq_ok.mp taken
      rcases closing with ⟨more, later, comma, looped, rfl⟩ | ⟨brace, rfl⟩
      · cases relateds with
        | @cons _ first _ others related relateds =>
          exact ⟨first, behind, (refines.member _ _ _).mpr ⟨entry, read, related⟩,
            .inl ⟨more, others, comma, (ih _ _ _).mpr ⟨later, looped, relateds⟩, rfl⟩⟩
      · cases relateds with
        | @cons _ first _ others related relateds =>
          cases relateds
          exact ⟨first, behind, (refines.member _ _ _).mpr ⟨entry, read, related⟩,
            .inr ⟨brace, rfl⟩⟩

/-- **What holds of the readers of values holds of the readers of objects**, member by member. -/
theorem Refines.members (refines : Refines rel fine coarse) :
    Refines (Entries.Related rel) (members fine) (members coarse) := by
  intro text others rest
  unfold Reader.members
  split
  · constructor
    · intro none
      cases none
      exact ⟨[], rfl, .nil⟩
    · rintro ⟨entries, none, relateds⟩
      cases none
      cases relateds
      rfl
  · exact refines.membersFrom _ _ _ _

end Refines

/-! ## Objects -/

/-- The members of an object from its brace on, repeated names included. -/
def object (value : Reader α) : Reader (Entries α) := fun text =>
  match skipBlank text with
  | '{' :: rest => members value rest
  | _ => malformed

theorem Refines.object {rel : α → β → Prop} {fine : Reader β} {coarse : Reader α}
    (refines : Refines rel fine coarse) :
    Refines (Entries.Related rel) (object fine) (object coarse) := by
  intro text others rest
  unfold Reader.object
  split
  · exact refines.members _ _ _
  · constructor
    · intro taken
      cases taken
    · rintro ⟨entries, taken, -⟩
      cases taken

theorem object_of_brace {value : Reader α} {text rest : List Char}
    (front : skipBlank text = '{' :: rest) : object value text = members value rest := by
  rw [object, front]
  rfl

theorem object_of_no_brace {value : Reader α} {text : List Char}
    (other : ∀ rest, skipBlank text ≠ '{' :: rest) : object value text = malformed := by
  unfold object
  split
  · next rest front => exact absurd front (other rest)
  · rfl

theorem eq_of_keyword {word text rest : List Char} {value answer : α}
    (taken : keyword word value text = .ok (answer, rest)) : answer = value := by
  unfold keyword at taken
  split at taken
  · cases taken
    rfl
  · cases taken

/-- Nothing but a brace opens an object. -/
theorem valueOf_ne_object {part : Reader Json} {text rest : List Char} {entries : Entries Json}
    (other : ∀ rest, skipBlank text ≠ '{' :: rest) :
    valueOf (some part) text ≠ .ok (.object entries, rest) := by
  intro taken
  unfold valueOf at taken
  split at taken
  · cases taken
  next c behind front =>
  split at taken
  · cases eq_of_keyword taken
  split at taken
  · cases eq_of_keyword taken
  split at taken
  · cases eq_of_keyword taken
  split at taken
  · obtain ⟨read, -, answer⟩ := map_eq_ok.mp taken
    cases answer
  split at taken
  · obtain ⟨read, -, answer⟩ := map_eq_ok.mp taken
    cases answer
  have noBrace : c ≠ '{' := by
    rintro rfl
    exact other behind front
  rw [if_neg noBrace] at taken
  obtain ⟨read, -, answer⟩ := map_eq_ok.mp taken
  cases answer

/-- **A value that is an object** has the members that are written, collapsed. -/
theorem valueOf_eq_object {part : Reader Json} {text rest : List Char} {entries : Entries Json} :
    valueOf (some part) text = .ok (.object entries, rest) ↔
      ∃ written, object part text = .ok (written, rest) ∧ written.collapse = entries := by
  by_cases brace : ∃ behind, skipBlank text = '{' :: behind
  · obtain ⟨behind, front⟩ := brace
    have value : valueOf (some part) text =
        (members part behind).map fun read => (.object read.1.collapse, read.2) := by
      rw [valueOf, front]
      rfl
    rw [value, object_of_brace front, map_eq_ok]
    constructor
    · rintro ⟨⟨written, left⟩, read, answer⟩
      cases answer
      exact ⟨written, read, rfl⟩
    · rintro ⟨written, read, rfl⟩
      exact ⟨(written, rest), read, rfl⟩
  · have other := not_exists.mp brace
    constructor
    · intro taken
      exact absurd taken (valueOf_ne_object other)
    · rintro ⟨written, taken, -⟩
      rw [object_of_no_brace other] at taken
      cases taken

/-! ## Whole texts -/

theorem wholeText_eq_ok {reader : Reader α} {text : String} {answer : α} :
    wholeText reader text = .ok answer ↔
      ∃ rest, reader text.toList = .ok (answer, rest) ∧ skipBlank rest = [] := by
  constructor
  · intro taken
    obtain ⟨⟨read, rest⟩, reads, ends⟩ := bind_eq_ok.mp taken
    dsimp only at ends
    split at ends
    · next blank =>
      cases ends
      exact ⟨rest, reads, blank⟩
    · cases ends
  · rintro ⟨rest, reads, blank⟩
    exact bind_eq_ok.mpr ⟨(answer, rest), reads, if_pos blank⟩

end Reader

/-- The members of the object that a text writes, repeated names included. -/
def writtenMembers (text : String) : Except TextFault (Entries Json) :=
  Reader.wholeText (Reader.object (Reader.value (maxDepth - 1))) text

/-- **A text stands for an object** of the members that it writes, collapsed. -/
theorem parse_eq_object {text : String} {entries : Entries Json} :
    parse text = .ok (.object entries) ↔
      ∃ written, writtenMembers text = .ok written ∧ written.collapse = entries := by
  have value : ∀ rest, Reader.value maxDepth text.toList = .ok (.object entries, rest) ↔
      ∃ written, Reader.object (Reader.value (maxDepth - 1)) text.toList = .ok (written, rest) ∧
        written.collapse = entries := fun rest => Reader.valueOf_eq_object
  rw [parse, Reader.wholeText_eq_ok]
  constructor
  · rintro ⟨rest, reads, blank⟩
    obtain ⟨written, read, collapsed⟩ := (value rest).mp reads
    exact ⟨written, Reader.wholeText_eq_ok.mpr ⟨rest, read, blank⟩, collapsed⟩
  · rintro ⟨written, writes, collapsed⟩
    obtain ⟨rest, read, blank⟩ := Reader.wholeText_eq_ok.mp writes
    exact ⟨rest, (value rest).mpr ⟨written, read, collapsed⟩, blank⟩

end Statements.Json
