/-!
# Balanced texts

A statement is glued together from texts that nothing checks, so what can be read back out of it
depends on where such a text ends. A text that is **balanced** ends in one place: a scan from its
left that toggles at every single quote and counts the parentheses outside quotes never closes one
that the text did not open, and is outside of everything at the end. So the parenthesis that a
statement writes after a balanced text is the first one that the scan cannot take.

`Balanced.append_close` is that fact, and it is what the readings of clauses and statements stand
on: a balanced text and what follows its closing parenthesis are determined by the characters
alone, whatever keywords, commas or quotes the text contains.
-/

namespace Statements.Text

/-- Where a scan stands: inside a quotation or not, and how many parentheses are open. -/
structure Nesting where
  quoted : Bool
  depth : Nat
deriving DecidableEq

namespace Nesting

/-- Outside of quotations and parentheses. -/
def outside : Nesting := ⟨false, 0⟩

/-- The scan past one character. A parenthesis counts outside a quotation only, and the scan ends
at one that closes nothing. -/
def past (nesting : Nesting) (c : Char) : Option Nesting :=
  if c = '\'' then some { nesting with quoted := !nesting.quoted }
  else if nesting.quoted then some nesting
  else if c = '(' then some { nesting with depth := nesting.depth + 1 }
  else if c = ')' then
    if nesting.depth = 0 then none else some { nesting with depth := nesting.depth - 1 }
  else some nesting

/-- The scan past all the characters, from the left. -/
def scan (nesting : Nesting) : List Char → Option Nesting
  | [] => some nesting
  | c :: rest => (nesting.past c).bind fun next => next.scan rest

theorem scan_cons (nesting : Nesting) (c : Char) (rest : List Char) :
    nesting.scan (c :: rest) = (nesting.past c).bind fun next => next.scan rest := rfl

/-- A scan goes on where the scan of the front part stands. -/
theorem scan_append (nesting : Nesting) (front back : List Char) :
    nesting.scan (front ++ back) = (nesting.scan front).bind fun next => next.scan back := by
  induction front generalizing nesting with
  | nil => rfl
  | cons c front ih =>
    rw [List.cons_append, scan_cons, scan_cons]
    cases nesting.past c with
    | none => rfl
    | some next => exact ih next

/-- The parenthesis that closes nothing ends the scan. -/
theorem past_close_outside : outside.past ')' = none := rfl

/-- What neither quotes nor nests leaves the scan where it stands. -/
def Inert (c : Char) : Prop := c ≠ '\'' ∧ c ≠ '(' ∧ c ≠ ')'

theorem past_inert (nesting : Nesting) {c : Char} (inert : Inert c) :
    nesting.past c = some nesting := by
  obtain ⟨noQuote, noOpen, noClose⟩ := inert
  simp only [past, if_neg noQuote, if_neg noOpen, if_neg noClose, ite_self]

theorem scan_inert (nesting : Nesting) {text : List Char} (inert : ∀ c ∈ text, Inert c) :
    nesting.scan text = some nesting := by
  induction text with
  | nil => rfl
  | cons c text ih =>
    obtain ⟨first, others⟩ := List.forall_mem_cons.mp inert
    rw [scan_cons, past_inert nesting first]
    exact ih others

/-- Inside a quotation only a quote counts. -/
theorem scan_quoted (depth : Nat) {text : List Char} (noQuote : '\'' ∉ text) :
    scan ⟨true, depth⟩ text = some ⟨true, depth⟩ := by
  induction text with
  | nil => rfl
  | cons c text ih =>
    obtain ⟨notHead, notRest⟩ := not_or.mp (mt List.mem_cons.mpr noQuote)
    have stays : past ⟨true, depth⟩ c = some ⟨true, depth⟩ := by
      rw [past, if_neg (Ne.symm notHead), if_pos rfl]
    rw [scan_cons, stays]
    exact ih notRest

/-- A text in quotes, without quotes of its own, leaves the scan where it stands. -/
theorem scan_quotation (depth : Nat) {text : List Char} (noQuote : '\'' ∉ text) :
    scan ⟨false, depth⟩ ('\'' :: (text ++ ['\''])) = some ⟨false, depth⟩ := by
  have opened : past ⟨false, depth⟩ '\'' = some ⟨true, depth⟩ := rfl
  rw [scan_cons, opened, Option.bind_some, scan_append, scan_quoted depth noQuote]
  rfl

/-- Parentheses that are open around a place do not change where a character leads from it. -/
theorem past_deeper (extra : Nat) {nesting next : Nesting} {c : Char}
    (passed : nesting.past c = some next) :
    past ⟨nesting.quoted, nesting.depth + extra⟩ c =
      some ⟨next.quoted, next.depth + extra⟩ := by
  rw [past] at passed ⊢
  by_cases quote : c = '\''
  · rw [if_pos quote] at passed ⊢
    obtain rfl := Option.some.inj passed
    rfl
  rw [if_neg quote] at passed ⊢
  by_cases quoted : nesting.quoted
  · rw [if_pos quoted] at passed ⊢
    obtain rfl := Option.some.inj passed
    rfl
  rw [if_neg quoted] at passed ⊢
  by_cases opens : c = '('
  · rw [if_pos opens] at passed ⊢
    obtain rfl := Option.some.inj passed
    rw [Nat.add_right_comm]
  rw [if_neg opens] at passed ⊢
  by_cases closes : c = ')'
  · rw [if_pos closes] at passed ⊢
    by_cases none_open : nesting.depth = 0
    · rw [if_pos none_open] at passed
      exact nomatch passed
    · rw [if_neg none_open] at passed
      obtain rfl := Option.some.inj passed
      have some_open : nesting.depth + extra ≠ 0 := by omega
      have closed : nesting.depth + extra - 1 = nesting.depth - 1 + extra := by omega
      rw [if_neg some_open, closed]
  · rw [if_neg closes] at passed ⊢
    obtain rfl := Option.some.inj passed
    rfl

/-- The scan of a text does not mind how many parentheses are open around it. -/
theorem scan_deeper (extra : Nat) {nesting next : Nesting} {text : List Char}
    (scanned : nesting.scan text = some next) :
    scan ⟨nesting.quoted, nesting.depth + extra⟩ text =
      some ⟨next.quoted, next.depth + extra⟩ := by
  induction text generalizing nesting with
  | nil =>
    obtain rfl := Option.some.inj scanned
    rfl
  | cons c text ih =>
    obtain ⟨middle, passed, rest⟩ := Option.bind_eq_some_iff.mp scanned
    rw [scan_cons, past_deeper extra passed]
    exact ih rest

/-- **Where a balanced text ends.** From one place, two texts that both lead outside and are both
closed by a parenthesis are the same, and so is what follows the parenthesis. -/
theorem scan_close_unique {nesting : Nesting} {p q r s : List Char}
    (left : nesting.scan p = some outside) (right : nesting.scan q = some outside)
    (same : p ++ ')' :: r = q ++ ')' :: s) : p = q ∧ r = s := by
  induction p generalizing nesting q with
  | nil =>
    obtain rfl := Option.some.inj left
    cases q with
    | nil => exact ⟨rfl, (List.cons.inj same).2⟩
    | cons d q =>
      -- the other text would have to take the parenthesis that closes nothing
      obtain rfl := (List.cons.inj same).1
      rw [scan_cons, past_close_outside] at right
      exact nomatch right
  | cons c p ih =>
    cases q with
    | nil =>
      obtain rfl := Option.some.inj right
      obtain rfl := (List.cons.inj same).1
      rw [scan_cons, past_close_outside] at left
      exact nomatch left
    | cons d q =>
      obtain ⟨rfl, rest⟩ := List.cons.inj same
      obtain ⟨next, passed, left⟩ := Option.bind_eq_some_iff.mp left
      rw [scan_cons, passed] at right
      obtain ⟨rfl, tails⟩ := ih left right rest
      exact ⟨rfl, tails⟩

end Nesting

/-- A left-to-right scan never closes a parenthesis that the text did not open, and ends outside of
quotations and parentheses. -/
def Balanced (text : String) : Prop := Nesting.outside.scan text.toList = some .outside

instance (text : String) : Decidable (Balanced text) := inferInstanceAs (Decidable (_ = _))

namespace Balanced

/-- Balanced texts next to one another are balanced. -/
theorem append {front back : String} (left : Balanced front) (right : Balanced back) :
    Balanced (front ++ back) := by
  rw [Balanced, String.toList_append, Nesting.scan_append, left]
  exact right

/-- A text with neither quotes nor parentheses is balanced. -/
theorem of_inert {text : String} (inert : ∀ c ∈ text.toList, Nesting.Inert c) : Balanced text :=
  Nesting.scan_inert _ inert

/-- A balanced text in parentheses is balanced. -/
theorem parenthesized {text : String} (balanced : Balanced text) :
    Balanced ("(" ++ text ++ ")") := by
  have inner : Nesting.scan ⟨false, 1⟩ text.toList = some ⟨false, 1⟩ :=
    Nesting.scan_deeper 1 balanced
  have opened : Nesting.outside.scan "(".toList = some ⟨false, 1⟩ := rfl
  rw [Balanced, String.toList_append, String.toList_append, Nesting.scan_append,
    Nesting.scan_append, opened, Option.bind_some, inner]
  rfl

/-- A text in quotes is balanced if it has no quote of its own. -/
theorem quotation {text : String} (noQuote : '\'' ∉ text.toList) :
    Balanced ("'" ++ text ++ "'") := by
  have written : ("'" ++ text ++ "'").toList = '\'' :: (text.toList ++ ['\'']) := by
    simp only [String.toList_append]
    rfl
  rw [Balanced, written]
  exact Nesting.scan_quotation 0 noQuote

/-- Balanced texts with a balanced text between them are balanced. -/
theorem intercalate {separator : String} {texts : List String} (between : Balanced separator)
    (each : ∀ text ∈ texts, Balanced text) : Balanced (separator.intercalate texts) := by
  induction texts with
  | nil => rfl
  | cons text texts ih =>
    obtain ⟨first, others⟩ := List.forall_mem_cons.mp each
    cases texts with
    | nil =>
      rw [String.intercalate_singleton]
      exact first
    | cons next texts =>
      rw [String.intercalate_cons_cons]
      exact (first.append between).append (ih others)

/-- A balanced text and what follows its closing parenthesis can be told from the characters. -/
theorem append_close {p q : String} {r s : List Char} (left : Balanced p) (right : Balanced q)
    (same : p.toList ++ ')' :: r = q.toList ++ ')' :: s) : p = q ∧ r = s := by
  obtain ⟨texts, tails⟩ := Nesting.scan_close_unique left right same
  exact ⟨String.toList_injective texts, tails⟩

end Balanced

end Statements.Text
