import Statements.Proofs.Json.Escape
import Statements.Proofs.Json.Numeral

/-!
# Values and members read back from JSON text

What a reader of a value is given is the printed value and whatever stands behind it. A value
without parts is read back as it was (`value_chars`): its first character says which kind it is,
and it ends by itself or where a number stops.

The member loop works with any reader of values, and so does the law about it: if every value is
read back as something, then the members of an object are read back as those things, under their
names, in their order and as often as they stand there (`members_chars`).
-/

namespace Statements.Json

namespace Reader

theorem skipBlank_of_not_isBlank {c : Char} (noBlank : isBlank c = false) (rest : List Char) :
    skipBlank (c :: rest) = c :: rest :=
  List.dropWhile_cons_of_neg (Bool.eq_false_iff.mp noBlank)

/-! ## Values without parts -/

/-- What begins like a number is read as one. -/
theorem valueOf_numeral (part : Option (Reader Json)) {c : Char}
    (numeral : Binary64.isNumeral c = true) (rest : List Char) :
    valueOf part (c :: rest) = (number (c :: rest)).map fun (n, rest) => (.number n, rest) := by
  have other : ∀ d, Binary64.isNumeral d = false → c ≠ d := by
    rintro d noNumeral rfl
    rw [numeral] at noNumeral
    cases noNumeral
  have noBlank : isBlank c = false := by
    simp [isBlank, other ' ' rfl, other '\t' rfl, other '\n' rfl, other '\r' rfl]
  rw [valueOf, skipBlank_of_not_isBlank noBlank]
  simp only [if_neg (other 'n' rfl), if_neg (other 't' rfl), if_neg (other 'f' rfl),
    if_neg (other '"' rfl), if_neg (other '[' rfl), if_neg (other '{' rfl)]

theorem valueOf_chars (part : Option (Reader Json)) {json : Json} (scalar : json.isScalar = true)
    {rest : List Char} (stops : Stops rest) :
    valueOf part (json.chars ++ rest) = .ok (json, rest) := by
  cases json with
  | null => rfl
  | bool b => cases b <;> rfl
  | number n =>
    have read := number_chars n stops
    have numerals := Binary64.isNumeral_number n
    rw [Json.chars]
    cases written : n.chars with
    | nil =>
      -- nothing is not read as a number
      have none : number (n.chars ++ []) = .ok (n, []) := number_chars n trivial
      rw [written] at none
      cases none
    | cons c more =>
      rw [written] at read numerals
      have first := numerals c List.mem_cons_self
      rw [List.cons_append] at read ⊢
      rw [valueOf_numeral part first, read]
      rfl
  | string s =>
    show (string ((s.toList.flatMap escaped ++ ['"']) ++ rest)).map _ = _
    rw [List.append_assoc, List.singleton_append, string_escaped]
    rfl
  | array items => cases scalar
  | object members => cases scalar

/-- **A value without parts is read back from its text**, at any depth. -/
theorem value_chars (depth : Nat) {json : Json} (scalar : json.isScalar = true)
    {rest : List Char} (stops : Stops rest) :
    value depth (json.chars ++ rest) = .ok (json, rest) := by
  cases depth with
  | zero => exact valueOf_chars none scalar stops
  | succ depth => exact valueOf_chars (some (value depth)) scalar stops

/-! ## Members -/

section Members

variable {α β : Type} {reader : Reader α} {json : β → Json} {read : β → α}

/-- The reader takes the text of a value and answers what is read of it. -/
def ReadsBack (reader : Reader α) (json : Json) (answer : α) : Prop :=
  ∀ rest, Stops rest → reader (json.chars ++ rest) = .ok (answer, rest)

theorem stringChars_append (name : String) (text : List Char) :
    stringChars name ++ text = '"' :: (name.toList.flatMap escaped ++ '"' :: text) := by
  simp [stringChars]

variable {name : String} {text behind : List Char} {first : α}

/-- A comma behind the value leads to the other members. -/
theorem membersFrom_comma (rounds : Nat) (taken : reader text = .ok (first, ',' :: behind)) :
    membersFrom reader (rounds + 1) (stringChars name ++ ':' :: text) =
      (membersFrom reader rounds behind).map fun read => ((name, first) :: read.1, read.2) := by
  have quote := skipBlank_of_not_isBlank (c := '"') rfl
  have colon := skipBlank_of_not_isBlank (c := ':') rfl
  have comma := skipBlank_of_not_isBlank (c := ',') rfl
  simp only [membersFrom, stringChars_append, quote, string_escaped, colon, taken, comma, bind,
    Except.bind]
  cases membersFrom reader rounds behind <;> rfl

/-- A brace behind the value ends the object. -/
theorem membersFrom_brace (rounds : Nat) (taken : reader text = .ok (first, '}' :: behind)) :
    membersFrom reader (rounds + 1) (stringChars name ++ ':' :: text) =
      .ok ([(name, first)], behind) := by
  have quote := skipBlank_of_not_isBlank (c := '"') rfl
  have colon := skipBlank_of_not_isBlank (c := ':') rfl
  have brace := skipBlank_of_not_isBlank (c := '}') rfl
  simp only [membersFrom, stringChars_append, quote, string_escaped, colon, taken, brace, bind,
    Except.bind]

/-- The loop reads printed entries up to the brace, in at least as many rounds. -/
theorem membersFrom_chars {entries : Entries β} (nonempty : entries ≠ [])
    (each : ∀ entry ∈ entries, ReadsBack reader (json entry.2) (read entry.2)) {rounds : Nat}
    (enough : entries.length ≤ rounds) (rest : List Char) :
    membersFrom reader rounds (membersChars (entries.mapValues json) ++ '}' :: rest) =
      .ok (entries.mapValues read, rest) := by
  induction entries generalizing rounds with
  | nil => exact absurd rfl nonempty
  | cons entry entries ih =>
    obtain ⟨name, value⟩ := entry
    obtain ⟨readsBack, others⟩ := List.forall_mem_cons.mp each
    obtain _ | rounds := rounds
    · cases enough
    cases entries with
    | nil =>
      have taken := readsBack ('}' :: rest) rfl
      simp only [Entries.mapValues, List.map_cons, List.map_nil, membersChars, List.append_assoc,
        List.cons_append]
      exact membersFrom_brace rounds taken
    | cons next entries =>
      have more := ih (List.cons_ne_nil _ _) others (Nat.le_of_succ_le_succ enough)
      have taken := readsBack
        (',' :: (membersChars (Entries.mapValues json (next :: entries)) ++ '}' :: rest))
        rfl
      simp only [Entries.mapValues, List.map_cons] at more taken
      simp only [Entries.mapValues, List.map_cons, membersChars, List.append_assoc,
        List.cons_append]
      rw [membersFrom_comma rounds taken, more]
      rfl

/-- Members are at least as long as they are many. -/
theorem length_le_membersChars (members : Entries Json) :
    members.length ≤ (membersChars members).length := by
  induction members with
  | nil => exact Nat.le_refl 0
  | cons member members ih =>
    obtain ⟨name, json⟩ := member
    cases members with
    | nil =>
      simp only [membersChars, List.length_append, List.length_cons, List.length_nil]
      omega
    | cons next others =>
      simp only [membersChars, List.length_append, List.length_cons] at ih ⊢
      omega

/-- **The entries of an object are read back**, behind its opening brace. -/
theorem members_chars {entries : Entries β}
    (each : ∀ entry ∈ entries, ReadsBack reader (json entry.2) (read entry.2))
    (rest : List Char) :
    members reader (membersChars (entries.mapValues json) ++ '}' :: rest) =
      .ok (entries.mapValues read, rest) := by
  by_cases empty : entries = []
  · subst empty
    rfl
  · have front : ∃ more, membersChars (entries.mapValues json) = '"' :: more := by
      rcases entries with _ | ⟨⟨name, value⟩, _ | ⟨next, others⟩⟩
      · exact absurd rfl empty
      · exact ⟨_, rfl⟩
      · exact ⟨_, rfl⟩
    have enough : entries.length ≤
        (membersChars (entries.mapValues json) ++ '}' :: rest).length := by
      have size : (entries.mapValues json).length = entries.length := List.length_map _
      have long := length_le_membersChars (entries.mapValues json)
      rw [List.length_append]
      omega
    have loop := membersFrom_chars empty each enough rest
    obtain ⟨more, front⟩ := front
    rw [front] at loop ⊢
    exact loop

end Members

end Reader

end Statements.Json
