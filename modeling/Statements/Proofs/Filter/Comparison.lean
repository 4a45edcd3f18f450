import Statements.Filter.Predicate
import Statements.Proofs.Scalar.Listing

/-!
# What the text of a comparison says

A comparison with one value, a null check and a comparison with a list are all written as a column,
an operator and what stands behind it, with blanks between them. Some operators have blanks of their
own, so it is not clear at first where an operator ends: `c IS null` compares with the operator IS,
and `c IS NULL` is a check.

Two things keep them apart. A column without blanks ends at the first one, and so does an operator
of one word. And what follows the first word of an operator of several words is neither a
parenthesis nor a literal: outside quotes a literal has no capital I and no capital U
(`Scalar.not_mem_bare`), and every such operator goes on with a word that does. So the text shows
the column, the operator, the shape of what stands behind it, and the literals
(`text_determines_shown`), and it shows nothing else.
-/

namespace Statements

open Text (listing append_cons_unique)

/-! ## Operators -/

namespace Operator

/-- The operators with a name. -/
def named : List Operator :=
  [⟨">"⟩, ⟨"<"⟩, ⟨"="⟩, ⟨"!="⟩, ⟨">="⟩, ⟨"<="⟩, ⟨"LIKE"⟩, ⟨"ILIKE"⟩, ⟨"IN"⟩, ⟨"NOT IN"⟩,
    ⟨"IS NULL"⟩, ⟨"IS NOT NULL"⟩]

/-- The operators of several words with a name. -/
def phrases : List Operator := [⟨"NOT IN"⟩, ⟨"IS NULL"⟩, ⟨"IS NOT NULL"⟩]

/-- The operator has a name or is a single word. -/
def Separable (operator : Operator) : Prop := operator ∈ named ∨ ' ' ∉ operator.text.toList

instance (operator : Operator) : Decidable operator.Separable :=
  inferInstanceAs (Decidable (_ ∨ _))

theorem Separable.cases {operator : Operator} (separable : operator.Separable) :
    ' ' ∉ operator.text.toList ∨ operator ∈ phrases := by
  have words : ∀ operator ∈ named, ' ' ∉ operator.text.toList ∨ operator ∈ phrases := by decide
  rcases separable with name | word
  · exact words operator name
  · exact .inl word

theorem blank_mem_of_mem_phrases {operator : Operator} (phrase : operator ∈ phrases) :
    ' ' ∈ operator.text.toList := by
  revert operator
  decide

/-- No phrase begins another. -/
theorem eq_of_phrases {o p : Operator} {r s : List Char} (left : o ∈ phrases)
    (right : p ∈ phrases) (same : o.text.toList ++ r = p.text.toList ++ s) : o = p := by
  have apart : ∀ o ∈ phrases, ∀ p ∈ phrases, o ≠ p →
      Text.Apart o.text.toList p.text.toList := by decide
  by_contra other
  refine (apart o left p right other).not_begins ⟨s, rfl⟩ ?_
  exact ⟨r, same⟩

/-- What a phrase says behind its first word. -/
structure Continues (rest : List Char) : Prop where
  noList : rest.head? ≠ some '('
  noQuote : rest.head? ≠ some '\''
  capital : 'I' ∈ rest ∨ 'U' ∈ rest

instance (rest : List Char) : Decidable (Continues rest) :=
  decidable_of_iff (rest.head? ≠ some '(' ∧ rest.head? ≠ some '\'' ∧ ('I' ∈ rest ∨ 'U' ∈ rest))
    ⟨fun ⟨noList, noQuote, capital⟩ => ⟨noList, noQuote, capital⟩,
      fun ⟨noList, noQuote, capital⟩ => ⟨noList, noQuote, capital⟩⟩

theorem exists_continues {operator : Operator} (phrase : operator ∈ phrases) :
    ∃ word rest, operator.text.toList = word ++ ' ' :: rest ∧ ' ' ∉ word ∧ Continues rest := by
  have named : operator = ⟨"NOT IN"⟩ ∨ operator = ⟨"IS NULL"⟩ ∨ operator = ⟨"IS NOT NULL"⟩ := by
    simpa [phrases] using phrase
  rcases named with rfl | rfl | rfl
  · exact ⟨['N', 'O', 'T'], ['I', 'N'], by decide, by decide, by decide⟩
  · exact ⟨['I', 'S'], ['N', 'U', 'L', 'L'], by decide, by decide, by decide⟩
  · exact ⟨['I', 'S'], ['N', 'O', 'T', ' ', 'N', 'U', 'L', 'L'], by decide, by decide, by decide⟩

end Operator

/-! ## Literals -/

namespace Scalar

/-- The letters that scalars are written with outside quotes. -/
def letters : List Char :=
  ['n', 'u', 'l', 't', 'r', 'e', 'f', 'a', 's', 'i', 'N', '-']

/-- Other letters do not stand outside quotes. -/
theorem not_mem_bare {scalar : Scalar} (noText : scalar.isText = false) {c : Char}
    (noNumeral : Binary64.isNumeral c = false) (noLetter : c ∉ letters) :
    c ∉ scalar.bare.toList := by
  have numerals : ∀ chars : List Char, (∀ d ∈ chars, Binary64.isNumeral d = true) →
      c ∉ (String.ofList chars).toList := by
    intro chars each mem
    rw [String.toList_ofList] at mem
    exact Bool.eq_false_iff.mp noNumeral (each c mem)
  have words : ∀ word : String, word.toList.all (· ∈ letters) = true → c ∉ word.toList := by
    intro word each mem
    exact noLetter (of_decide_eq_true (List.all_eq_true.mp each c mem))
  cases scalar with
  | null => exact words "null" (by decide)
  | bool b =>
    cases b
    · exact words "false" (by decide)
    · exact words "true" (by decide)
  | signed n => exact numerals _ (Binary64.isNumeral_integerChars n.toInt)
  | unsigned n => exact numerals _ fun _ mem => Binary64.isNumeral_toDigits mem
  | float x =>
    show c ∉ (floatText x).toList
    unfold floatText
    split
    · exact words "NaN" (by decide)
    split
    · exact numerals _ fun _ mem => Binary64.Layout.isNumeral_of_mem_chars mem
    split
    · exact words "-inf" (by decide)
    · exact words "inf" (by decide)
  | text s => cases noText

/-- **No literal stands behind the first word of a phrase.** -/
theorem IsLiteral.not_continues {text : String} (literal : IsLiteral text) {rest behind : List Char}
    (continues : Operator.Continues rest) : text.toList ≠ rest ++ behind := by
  obtain ⟨scalar, free, rfl⟩ := literal
  intro same
  cases isText : scalar.isText with
  | true =>
    -- a text begins with its quote
    cases scalar with
    | text s =>
      cases rest with
      | nil => simpa using continues.capital
      | cons c rest =>
        have front : '\'' = c := by
          simp only [Scalar.literal, String.toList_append] at same
          exact (List.cons.inj same).1
        exact continues.noQuote (congrArg some front.symm)
    | null | bool | signed | unsigned | float => cases isText
  | false =>
    rw [literal_of_not_isText isText] at same
    rcases continues.capital with capital | capital
    · have mem : 'I' ∈ scalar.bare.toList := same ▸ List.mem_append_left behind capital
      exact not_mem_bare isText rfl (by decide) mem
    · have mem : 'U' ∈ scalar.bare.toList := same ▸ List.mem_append_left behind capital
      exact not_mem_bare isText rfl (by decide) mem

end Scalar

/-! ## What is shown -/

/-- What stands behind an operator. -/
inductive Shape where
  | nothing
  | value
  | list
deriving DecidableEq

namespace Operator

/-- A null check takes nothing, the list operators a list, and any other operator a value. -/
def shape (operator : Operator) : Shape :=
  if operator.text = "IS NULL" ∨ operator.text = "IS NOT NULL" then .nothing
  else if operator.text = "IN" ∨ operator.text = "NOT IN" then .list
  else .value

theorem eq_mk_iff {operator : Operator} {text : String} :
    operator = ⟨text⟩ ↔ operator.text = text :=
  ⟨congrArg Operator.text, congrArg Operator.mk⟩

theorem isUnary_iff (operator : Operator) :
    operator.isUnary = true ↔ operator.text = "IS NULL" ∨ operator.text = "IS NOT NULL" := by
  rw [isUnary, Bool.or_eq_true, decide_eq_true_eq, decide_eq_true_eq, isNull, isNotNull, eq_mk_iff,
    eq_mk_iff]

theorem takesList_iff (operator : Operator) :
    operator.takesList = true ↔ operator.text = "IN" ∨ operator.text = "NOT IN" := by
  rw [takesList, Bool.or_eq_true, decide_eq_true_eq, decide_eq_true_eq, isIn, notIn, eq_mk_iff,
    eq_mk_iff]

/-- The tests by which a predicate is written find the shape. -/
theorem shape_eq (operator : Operator) : operator.shape =
    if operator.isUnary then .nothing else if operator.takesList then .list else .value := by
  simp only [shape, isUnary_iff, takesList_iff]

/-- A null check has two words or more. -/
theorem mem_phrases_of_shape {operator : Operator} (nothing : operator.shape = .nothing) :
    operator ∈ phrases := by
  unfold shape at nothing
  split at nothing
  · next check =>
    rcases check with check | check <;> simp [phrases, eq_mk_iff, check]
  · split at nothing <;> cases nothing

end Operator

/-- What the text of a structured predicate says. -/
structure Shown where
  column : String
  operator : Operator
  shape : Shape
  literals : List String
deriving DecidableEq

namespace Shown

/-- What stands behind the operator, with the blank before it. -/
def operand (shown : Shown) : List Char :=
  match shown.shape with
  | .nothing => []
  | .value => ' ' :: listing shown.literals
  | .list => ' ' :: '(' :: (listing shown.literals ++ [')'])

def chars (shown : Shown) : List Char :=
  shown.column.toList ++ ' ' :: (shown.operator.text.toList ++ shown.operand)

/-- The parts can be told apart: the column and the operator by their blanks, and there are as many
literals as the shape takes. -/
structure Tame (shown : Shown) : Prop where
  column : ' ' ∉ shown.column.toList
  operator : shown.operator.Separable
  literals : ∀ text ∈ shown.literals, Scalar.IsLiteral text
  nothing : shown.shape = .nothing → shown.operator ∈ Operator.phrases ∧ shown.literals = []
  value : shown.shape = .value → ∃ text, shown.literals = [text]

variable {shown other : Shown}

/-- Behind a single word stands something. -/
theorem Tame.exists_operand (tame : shown.Tame) (word : ' ' ∉ shown.operator.text.toList) :
    ∃ body, shown.operand = ' ' :: body ∧
      ∀ rest behind, Operator.Continues rest → body ≠ rest ++ behind := by
  unfold operand
  cases shape : shown.shape with
  | nothing =>
    exact absurd (Operator.blank_mem_of_mem_phrases (tame.nothing shape).1) word
  | value =>
    obtain ⟨text, only⟩ := tame.value shape
    have literal : Scalar.IsLiteral text := tame.literals text (only ▸ List.mem_singleton_self text)
    refine ⟨_, rfl, fun rest behind continues => ?_⟩
    rw [only, Text.listing_singleton]
    exact literal.not_continues continues
  | list =>
    refine ⟨_, rfl, fun rest behind continues same => ?_⟩
    cases rest with
    | nil => simpa using continues.capital
    | cons c rest => exact continues.noList (congrArg some (List.cons.inj same).1.symm)

/-- A single word and a phrase do not begin the same text. -/
theorem Tame.word_ne_phrase (tame : shown.Tame) (word : ' ' ∉ shown.operator.text.toList)
    {phrase : Operator} (among : phrase ∈ Operator.phrases) (behind : List Char) :
    shown.operator.text.toList ++ shown.operand ≠ phrase.text.toList ++ behind := by
  obtain ⟨body, written, apart⟩ := tame.exists_operand word
  obtain ⟨first, rest, split, single, continues⟩ := Operator.exists_continues among
  intro same
  rw [written, split, List.append_assoc, List.cons_append] at same
  exact apart rest behind continues (append_cons_unique word single same).2

/-- **Where the operator ends.** -/
theorem Tame.operator_unique (left : shown.Tame) (right : other.Tame)
    (same : shown.operator.text.toList ++ shown.operand =
      other.operator.text.toList ++ other.operand) :
    shown.operator = other.operator ∧ shown.operand = other.operand := by
  have operators : shown.operator = other.operator := by
    rcases left.operator.cases with word | phrase
    · rcases right.operator.cases with word' | phrase'
      · obtain ⟨body, written, -⟩ := left.exists_operand word
        obtain ⟨body', written', -⟩ := right.exists_operand word'
        rw [written, written'] at same
        have texts := String.toList_injective (append_cons_unique word word' same).1
        exact congrArg Operator.mk texts
      · exact absurd same (left.word_ne_phrase word phrase' _)
    · rcases right.operator.cases with word' | phrase'
      · exact absurd same.symm (right.word_ne_phrase word' phrase _)
      · exact Operator.eq_of_phrases phrase phrase' same
  rw [operators] at same
  exact ⟨operators, List.append_cancel_left same⟩

/-- What stands behind the operator shows its shape and its literals. -/
theorem Tame.operand_unique (left : shown.Tame) (right : other.Tame)
    (same : shown.operand = other.operand) :
    shown.shape = other.shape ∧ shown.literals = other.literals := by
  have value_ne_list : ∀ {text : String} (behind : List Char), Scalar.IsLiteral text →
      text.toList ≠ '(' :: behind := by
    intro text behind literal opened
    exact literal.append_ne_cons rfl (by decide) [] behind ((List.append_nil _).trans opened)
  unfold operand at same
  cases shape : shown.shape <;> cases shape' : other.shape <;> simp only [shape, shape'] at same
  case nothing.nothing => rw [(left.nothing shape).2, (right.nothing shape').2]; exact ⟨rfl, rfl⟩
  case value.value =>
    obtain ⟨text, only⟩ := left.value shape
    obtain ⟨text', only'⟩ := right.value shape'
    have texts := (List.cons.inj same).2
    rw [only, only', Text.listing_singleton, Text.listing_singleton] at texts
    rw [only, only', String.toList_injective texts]
    exact ⟨rfl, rfl⟩
  case list.list =>
    have lists := (List.cons.inj (List.cons.inj same).2).2
    exact ⟨rfl, (Scalar.literals_append_unique left.literals right.literals lists).1⟩
  case value.list =>
    obtain ⟨text, only⟩ := left.value shape
    rw [only, Text.listing_singleton] at same
    have literal := left.literals text (only ▸ List.mem_singleton_self text)
    exact absurd (List.cons.inj same).2 (value_ne_list _ literal)
  case list.value =>
    obtain ⟨text, only⟩ := right.value shape'
    rw [only, Text.listing_singleton] at same
    have literal := right.literals text (only ▸ List.mem_singleton_self text)
    exact absurd (List.cons.inj same).2.symm (value_ne_list _ literal)
  all_goals cases same

theorem Tame.chars_unique (left : shown.Tame) (right : other.Tame)
    (same : shown.chars = other.chars) : shown = other := by
  obtain ⟨columns, behind⟩ := append_cons_unique left.column right.column same
  obtain ⟨operators, operands⟩ := left.operator_unique right behind
  obtain ⟨shapes, literals⟩ := left.operand_unique right operands
  obtain ⟨column, operator, shape, texts⟩ := shown
  obtain ⟨column', operator', shape', texts'⟩ := other
  obtain rfl : column = column' := String.toList_injective columns
  obtain rfl : operator = operator' := operators
  obtain rfl : shape = shape' := shapes
  obtain rfl : texts = texts' := literals
  rfl

end Shown

namespace Predicate

/-- What a structured predicate shows. A null check shows no literal, whatever value it was
given. -/
def shown? : Predicate → Option Shown
  | .raw _ => none
  | .compare column operator value =>
    some ⟨column, operator, operator.shape,
      if operator.shape = .nothing then [] else [value.literal]⟩
  | .list column operator values => some ⟨column, operator, .list, values.map Scalar.literal⟩

/-- A structured predicate over a column without blanks, with an operator that has a name or is a
single word, and with no quote in its texts. -/
def Separable : Predicate → Prop
  | .raw _ => False
  | .compare column operator value =>
    ' ' ∉ column.toList ∧ operator.Separable ∧ value.QuoteFree
  | .list column operator values =>
    ' ' ∉ column.toList ∧ operator.Separable ∧ ∀ value ∈ values, value.QuoteFree

instance : (predicate : Predicate) → Decidable predicate.Separable
  | .raw _ => inferInstanceAs (Decidable False)
  | .compare _ _ _ => inferInstanceAs (Decidable (_ ∧ _ ∧ _))
  | .list _ _ _ => inferInstanceAs (Decidable (_ ∧ _ ∧ ∀ _ ∈ _, _))

theorem toList_literalList (values : List Scalar) :
    (literalList values).toList = '(' :: (listing (values.map Scalar.literal) ++ [')']) := by
  simp only [literalList, listing, String.toList_append]
  rfl

theorem toList_operand (column : String) (operator : Operator) (value : Scalar) :
    (operand operator value).toList = Shown.operand ⟨column, operator, operator.shape,
      if operator.shape = .nothing then [] else [value.literal]⟩ := by
  rw [operator.shape_eq]
  unfold operand Shown.operand
  by_cases unary : operator.isUnary = true
  · simp only [if_pos unary]
    rfl
  · simp only [if_neg unary]
    by_cases several : operator.takesList = true
    · simp only [if_pos several, String.toList_append, toList_literalList]
      rfl
    · simp only [if_neg several, reduceCtorEq, if_false, String.toList_append,
        Text.listing_singleton]
      rfl

/-- **The text says what is shown**, and nothing else. -/
theorem toList_text {predicate : Predicate} {shown : Shown}
    (shows : predicate.shown? = some shown) : predicate.text.toList = shown.chars := by
  have blank : " ".toList = [' '] := rfl
  cases predicate with
  | raw fragment => cases shows
  | compare column operator value =>
    cases shows
    simp only [text, Shown.chars, String.toList_append, toList_operand column, blank,
      List.append_assoc, List.cons_append, List.nil_append]
  | list column operator values =>
    cases shows
    simp only [text, Shown.chars, Shown.operand, String.toList_append, toList_literalList, blank,
      List.append_assoc, List.cons_append, List.nil_append]

theorem Separable.exists_shown {predicate : Predicate} (separable : predicate.Separable) :
    ∃ shown, predicate.shown? = some shown ∧ shown.Tame := by
  cases predicate with
  | raw fragment => cases separable
  | compare column operator value =>
    obtain ⟨column', operator', free⟩ := separable
    have literal : Scalar.IsLiteral value.literal := ⟨value, free, rfl⟩
    refine ⟨_, rfl, ⟨column', operator', ?_, fun nothing => ?_, fun single => ?_⟩⟩
    · intro text mem
      split at mem
      · cases mem
      · obtain rfl := List.mem_singleton.mp mem
        exact literal
    · have nothing : operator.shape = .nothing := nothing
      exact ⟨Operator.mem_phrases_of_shape nothing, if_pos nothing⟩
    · have single : operator.shape = .value := single
      have something : operator.shape ≠ .nothing := by
        rw [single]
        decide
      exact ⟨value.literal, if_neg something⟩
  | list column operator values =>
    obtain ⟨column', operator', free⟩ := separable
    refine ⟨_, rfl, ⟨column', operator', Scalar.isLiteral_of_mem free, fun nothing => ?_,
      fun single => ?_⟩⟩
    · cases nothing
    · cases single

/-- **The text of a comparison determines what it shows**: the column, the operator, the shape of
what stands behind it, and the literals. What is shown alike is written alike, so a comparison with
a list operator is a list of one. -/
theorem text_determines_shown (predicate other : Predicate) :
    (predicate.Separable → other.Separable → predicate.text = other.text →
      ∃ shown, predicate.shown? = some shown ∧ other.shown? = some shown) ∧
    (∀ shown, predicate.shown? = some shown → other.shown? = some shown →
      predicate.text = other.text) ∧
    ∀ column value, (compare column .isIn value).text = (inList column [value]).text := by
  have alike : ∀ {p q : Predicate} {shown : Shown}, p.shown? = some shown →
      q.shown? = some shown → p.text = q.text := by
    intro p q shown left right
    exact String.toList_injective ((toList_text left).trans (toList_text right).symm)
  refine ⟨?_, fun _ => alike, fun column value => alike rfl rfl⟩
  intro left right same
  obtain ⟨shown, shows, tame⟩ := left.exists_shown
  obtain ⟨shown', shows', tame'⟩ := right.exists_shown
  have chars : shown.chars = shown'.chars := by
    rw [← toList_text shows, ← toList_text shows', same]
  exact ⟨shown, shows, tame.chars_unique tame' chars ▸ shows'⟩

/-- A value that is written like more than one, and a list of that value. -/
def disguised : Scalar := .text "1, 2) OR (c IN (3"

theorem text_determines_shown_disguised :
    (compare "a,(b" .isIn disguised).Separable ∧ (inList "a,(b" [disguised]).Separable ∧
      (compare "a,(b" .isIn disguised).text = (inList "a,(b" [disguised]).text ∧
      (∃ shown, (compare "a,(b" .isIn disguised).shown? = some shown ∧
        (inList "a,(b" [disguised]).shown? = some shown) ∧
      (compare "c" ⟨"IS"⟩ .null).Separable ∧ (isNull "c").Separable ∧
      (compare "c" ⟨"IS"⟩ .null).text ≠ (isNull "c").text ∧
      (compare "c" .isNull (.signed 1)).text = (isNull "c").text := by
  have left : (compare "a,(b" .isIn disguised).Separable := by decide
  have right : (inList "a,(b" [disguised]).Separable := by decide
  have word : (compare "c" ⟨"IS"⟩ .null).Separable := by decide
  have check : (isNull "c").Separable := by decide
  have lists := text_determines_shown (compare "a,(b" .isIn disguised) (inList "a,(b" [disguised])
  have same := lists.2.2 "a,(b" disguised
  refine ⟨left, right, same, lists.1 left right same, word, check, fun alike => ?_,
    (text_determines_shown _ _).2.1 ⟨"c", ⟨"IS NULL"⟩, .nothing, []⟩ rfl rfl⟩
  obtain ⟨shown, shows, shows'⟩ := (text_determines_shown _ _).1 word check alike
  rw [← shows'] at shows
  revert shows
  decide

end Predicate

end Statements
