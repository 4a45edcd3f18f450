import Mathlib.Data.List.SplitBy
import Statements.Proofs.Select.Flow

/-!
# When a clause means its conditions in order

A clause is flat, and the query language reads it by precedence: `AND` ties tighter than `OR`. So
the conditions fall into **blocks**, cut before each condition that follows an `OR`, and a row is
kept if every condition of some block holds. The calls that brought the conditions suggest another
meaning: each condition is combined with all that came before it.

**The law** (`Select.Flow.clause_inOrder_iff`): the two agree for all truth values of the
conditions exactly if no `AND` comes after an `OR`. An `AND` behind an `OR` ties to its own block,
while in order it restricts everything before it. So a row for which the conditions before that
`OR` hold, and none from there on, is kept by the clause and lost in order (`exists_separating`).

**What it does not establish.** That the query language reads a clause by precedence is taken for
granted. Of the text it is proved that it is the text of the blocks, and that well-quoted conditions
allow no other blocks (`blocks_unique`).
-/

namespace Statements

/-- What a connective makes of two truth values. -/
def Connective.apply : Connective → Bool → Bool → Bool
  | .and, before, next => before && next
  | .or, before, next => before || next

namespace Filter

variable {α : Type}

/-- A condition behind an `AND` stays in the block of the condition before it. -/
def staysInBlock (condition : Connective × α) : Bool := condition.1 = .and

/-- Conditions in blocks, cut before each condition that follows an `OR`. The connective of the
first condition cuts nothing. -/
def blocks (conditions : List (Connective × α)) : List (List α) :=
  (conditions.splitBy fun _ next => staysInBlock next).map (List.map Prod.snd)

/-- The text of the conditions of one block. -/
def conjunction (block : List String) : String :=
  " AND ".intercalate (block.map fun text => "(" ++ text ++ ")")

/-- The text of blocks of conditions. -/
def disjunction (blocks : List (List String)) : String :=
  " OR ".intercalate (blocks.map conjunction)

/-- The value of a clause read by precedence: some block holds as a whole. -/
def byPrecedence (judged : List (Connective × Bool)) : Bool :=
  (blocks judged).any fun block => block.all id

/-- The value of conditions taken in order: each is combined with all before it. -/
def inOrder : List (Connective × Bool) → Bool
  | [] => true
  | (_, first) :: others => others.foldl (fun before next => next.1.apply before next.2) first

/-- Conditions with the truth values of their positions in their places. -/
def judge (truth : Nat → Bool) (conditions : List (Connective × α)) : List (Connective × Bool) :=
  conditions.mapIdx fun position condition => (condition.1, truth position)

/-- No `AND` comes after an `OR`. The connective of the first condition does not count. -/
def OrsLast (conditions : List (Connective × α)) : Prop :=
  (conditions.tail.map Prod.fst).Pairwise fun earlier later => ¬ (earlier = .or ∧ later = .and)

instance (conditions : List (Connective × α)) : Decidable (OrsLast conditions) :=
  inferInstanceAs (Decidable (List.Pairwise _ _))

/-! ## Blocks -/

/-- The first block goes on as long as the connectives are `AND`. -/
theorem blocks_cons (connective : Connective) (first : α) (others : List (Connective × α)) :
    blocks ((connective, first) :: others) =
      (first :: (others.takeWhile staysInBlock).map Prod.snd) ::
        blocks (others.dropWhile staysInBlock) := by
  have each : ∀ next ∈ others.takeWhile staysInBlock, staysInBlock next :=
    fun next mem => List.mem_takeWhile_imp mem
  have tied : ((connective, first) :: others.takeWhile staysInBlock).IsChain
      fun _ next => staysInBlock next := by
    refine (List.pairwise_cons.mpr ⟨each, ?_⟩).isChain
    exact List.pairwise_of_forall_mem_list fun _ _ next mem => each next mem
  have cut : ∀ next ∈ (others.dropWhile staysInBlock).head?, staysInBlock next = false := by
    intro next mem
    have stops := List.head?_dropWhile_not staysInBlock others
    rwa [Option.mem_def.mp mem] at stops
  have whole : (connective, first) :: others = ((connective, first) ::
      others.takeWhile staysInBlock) ++ others.dropWhile staysInBlock := by
    rw [List.cons_append, List.takeWhile_append_dropWhile]
  rw [blocks, whole, List.splitBy_append fun _ _ next mem => cut next mem,
    List.splitBy_of_isChain (List.cons_ne_nil _ _) tied]
  rfl

theorem blocks_cons_and (connective : Connective) (first second : α)
    (others : List (Connective × α)) :
    blocks ((connective, first) :: (.and, second) :: others) =
      (blocks ((.and, second) :: others)).modifyHead (first :: ·) := by
  simp [blocks_cons, staysInBlock]

theorem blocks_cons_or (connective : Connective) (first second : α)
    (others : List (Connective × α)) :
    blocks ((connective, first) :: (.or, second) :: others) =
      [first] :: blocks ((.or, second) :: others) := by
  simp [blocks_cons connective first, staysInBlock]

/-! ## The text of the blocks -/

theorem disjunction_cons_or (text : String) {others : List (List String)} (some : others ≠ []) :
    disjunction ([text] :: others) = "(" ++ text ++ ")" ++ " OR " ++ disjunction others := by
  have more : others.map conjunction ≠ [] := mt List.map_eq_nil_iff.mp some
  rw [disjunction, List.map_cons, String.intercalate_cons_of_ne_nil more, conjunction,
    List.map_singleton, String.intercalate_singleton]
  rfl

theorem disjunction_cons_and (text next : String) (block : List String)
    (others : List (List String)) :
    disjunction ((text :: next :: block) :: others) =
      "(" ++ text ++ ")" ++ " AND " ++ disjunction ((next :: block) :: others) := by
  rw [disjunction, List.map_cons, conjunction, List.map_cons, List.map_cons,
    String.intercalate_cons_cons, String.intercalate_cons_append]
  rfl

/-- The first condition opens the text, and every other follows behind its connective. -/
theorem toList_disjunction_blocks (first : Written) (others : List Written) :
    (disjunction (blocks (first :: others))).toList =
      '(' :: (first.2.toList ++ ')' :: others.flatMap Written.chars) := by
  induction others generalizing first with
  | nil =>
    obtain ⟨connective, text⟩ := first
    have single : disjunction [[text]] = "(" ++ text ++ ")" := rfl
    rw [blocks_cons]
    show (disjunction [[text]]).toList = _
    rw [single]
    simp
  | cons second others ih =>
    obtain ⟨connective, text⟩ := first
    obtain ⟨between, next⟩ := second
    cases between with
    | and =>
      have rest := ih (.and, next)
      rw [blocks_cons] at rest
      rw [blocks_cons_and, blocks_cons, List.modifyHead_cons, disjunction_cons_and,
        String.toList_append, rest]
      simp [Written.chars, Written.opening, Connective.text]
    | or =>
      have some : blocks ((.or, next) :: others) ≠ [] := by simp [blocks_cons]
      rw [blocks_cons_or, disjunction_cons_or _ some, String.toList_append, ih]
      simp [Written.chars, Written.opening, Connective.text]

theorem clause?_eq_disjunction {conditions : List Written} (some : conditions ≠ []) :
    Written.clause? conditions =
      .some ("WHERE ".toList ++ (disjunction (blocks conditions)).toList) := by
  obtain ⟨first, others, rfl⟩ := List.exists_cons_of_ne_nil some
  rw [Written.clause?, toList_disjunction_blocks]
  rfl

/-- The clause is the text of its blocks. -/
theorem text?_eq_disjunction {filter : Filter} (some : filter.written ≠ []) :
    filter.text? = .some ("WHERE " ++ disjunction (blocks filter.written)) := by
  apply Option.map_injective fun _ _ same => String.toList_injective same
  rw [filter.text?_map_toList, clause?_eq_disjunction some, Option.map_some, String.toList_append]

/-! ## The only blocks -/

/-- The first connective cuts nothing. -/
theorem blocks_congr {conditions others : List Written}
    (same : Written.SameButFirst conditions others) : blocks conditions = blocks others := by
  obtain ⟨texts, tails⟩ := same
  cases conditions with
  | nil => rw [List.map_eq_nil_iff.mp texts.symm]
  | cons first rest =>
    cases others with
    | nil => exact nomatch texts
    | cons first' rest' =>
      obtain rfl : rest = rest' := tails
      have firsts : first.2 = first'.2 := (List.cons.inj texts).1
      rw [blocks_cons first.1, blocks_cons first'.1, firsts]

/-- Texts in blocks, tied with the connectives that cut the blocks. -/
def tieBlocks (blocks : List (List String)) : List Written :=
  blocks.flatMap fun
    | [] => []
    | first :: others => (.or, first) :: others.map fun text => (.and, text)

theorem blocks_tieBlocks {texts : List (List String)} (some : [] ∉ texts) :
    blocks (tieBlocks texts) = texts := by
  induction texts with
  | nil => rfl
  | cons block rest ih =>
    obtain ⟨here, later⟩ := not_or.mp (mt List.mem_cons.mpr some)
    obtain ⟨first, others, rfl⟩ := List.exists_cons_of_ne_nil (Ne.symm here)
    have stays : ∀ next ∈ others.map fun text => (Connective.and, text), staysInBlock next := by
      simp [staysInBlock]
    have cut : (tieBlocks rest).takeWhile staysInBlock = [] ∧
        (tieBlocks rest).dropWhile staysInBlock = tieBlocks rest := by
      cases rest with
      | nil => exact ⟨rfl, rfl⟩
      | cons block rest =>
        cases block with
        | nil => simp at later
        | cons first others => exact ⟨rfl, rfl⟩
    have unfolded : tieBlocks ((first :: others) :: rest) =
        (.or, first) :: (others.map (fun text => (.and, text)) ++ tieBlocks rest) := rfl
    rw [unfolded, blocks_cons, List.takeWhile_append_of_pos stays,
      List.dropWhile_append_of_pos stays, cut.1, cut.2, ih later, List.append_nil, List.map_map]
    simp [Function.comp_def]

/-- **A clause has no other blocks** if its texts are balanced. -/
theorem blocks_unique {conditions : List Written} {texts : List (List String)}
    (filtered : conditions ≠ []) (left : ∀ condition ∈ conditions, Text.Balanced condition.2)
    (some : [] ∉ texts) (right : ∀ block ∈ texts, ∀ text ∈ block, Text.Balanced text)
    (same : disjunction texts = disjunction (blocks conditions)) : texts = blocks conditions := by
  have balanced : ∀ condition ∈ tieBlocks texts, Text.Balanced condition.2 := by
    intro condition mem
    obtain ⟨block, among, mem⟩ := List.mem_flatMap.mp mem
    cases block with
    | nil => exact nomatch mem
    | cons first others =>
      obtain rfl | mem := List.mem_cons.mp mem
      · exact right _ among first List.mem_cons_self
      · obtain ⟨text, inBlock, rfl⟩ := List.mem_map.mp mem
        exact right _ among text (List.mem_cons_of_mem first inBlock)
  have someTied : tieBlocks texts ≠ [] := by
    intro none
    rw [← blocks_tieBlocks some, none] at same
    obtain ⟨first, others, rfl⟩ := List.exists_cons_of_ne_nil filtered
    have chars := congrArg String.toList same
    rw [toList_disjunction_blocks] at chars
    exact nomatch chars
  have alike : Written.SameButFirst (tieBlocks texts) conditions := by
    refine (Written.sameButFirst_of_clause?_append balanced left Written.ends_nil
      Written.ends_nil (clause?_eq_disjunction someTied) (clause?_eq_disjunction filtered) ?_).1
    rw [blocks_tieBlocks some, same]
  rw [← blocks_tieBlocks some, blocks_congr alike]

/-! ## Two meanings -/

theorem byPrecedence_singleton (connective : Connective) (value : Bool) :
    byPrecedence [(connective, value)] = value := by
  rw [byPrecedence, blocks_cons]
  simp [blocks]

theorem byPrecedence_cons_and (connective : Connective) (first second : Bool)
    (others : List (Connective × Bool)) :
    byPrecedence ((connective, first) :: (.and, second) :: others) =
      byPrecedence ((connective, first && second) :: others) := by
  simp [byPrecedence, blocks_cons, staysInBlock, Bool.and_assoc]

theorem byPrecedence_cons_or (connective : Connective) (first second : Bool)
    (others : List (Connective × Bool)) :
    byPrecedence ((connective, first) :: (.or, second) :: others) =
      (first || byPrecedence ((connective, second) :: others)) := by
  simp [byPrecedence, blocks_cons, staysInBlock]

theorem inOrder_cons (connective between : Connective) (first second : Bool)
    (others : List (Connective × Bool)) :
    inOrder ((connective, first) :: (between, second) :: others) =
      inOrder ((connective, between.apply first second) :: others) := rfl

/-- Behind alternatives only, the first value is one more alternative. -/
theorem inOrder_or {others : List (Connective × Bool)}
    (alternatives : ∀ next ∈ others, next.1 = .or) (connective : Connective)
    (first second : Bool) :
    inOrder ((connective, first || second) :: others) =
      (first || inOrder ((connective, second) :: others)) := by
  induction others generalizing second with
  | nil => rfl
  | cons next others ih =>
    obtain ⟨between, value⟩ := next
    obtain ⟨here, later⟩ := List.forall_mem_cons.mp alternatives
    obtain rfl : between = .or := here
    rw [inOrder_cons, inOrder_cons, ← ih later]
    simp [Connective.apply, Bool.or_assoc]

theorem byPrecedence_eq_inOrder {connective : Connective} {first : Bool}
    {others : List (Connective × Bool)} (orsLast : OrsLast ((connective, first) :: others)) :
    byPrecedence ((connective, first) :: others) = inOrder ((connective, first) :: others) := by
  induction others generalizing first with
  | nil => exact byPrecedence_singleton connective first
  | cons next others ih =>
    obtain ⟨between, second⟩ := next
    obtain ⟨here, later⟩ := List.pairwise_cons.mp orsLast
    cases between with
    | and =>
      rw [byPrecedence_cons_and, inOrder_cons]
      exact ih later
    | or =>
      have alternatives : ∀ next ∈ others, next.1 = .or := by
        intro next mem
        have notAnd := here next.1 (List.mem_map_of_mem mem)
        cases behind : next.1 with
        | and => exact absurd ⟨rfl, behind⟩ notAnd
        | or => rfl
      rw [byPrecedence_cons_or, inOrder_cons, Connective.apply, inOrder_or alternatives, ih later]

/-- Once a conjunction has failed, nothing but an `OR` with a condition that holds saves it. -/
theorem inOrder_false {others : List (Connective × Bool)}
    (fails : ∀ next ∈ others, next.2 = false) (connective : Connective) :
    inOrder ((connective, false) :: others) = false := by
  induction others with
  | nil => rfl
  | cons next others ih =>
    obtain ⟨between, value⟩ := next
    obtain ⟨here, later⟩ := List.forall_mem_cons.mp fails
    obtain rfl : value = false := here
    rw [inOrder_cons]
    cases between <;> exact ih later

theorem inOrder_false_of_and {others : List (Connective × Bool)}
    (fails : ∀ next ∈ others, next.2 = false) (restricted : .and ∈ others.map Prod.fst)
    (connective : Connective) (first : Bool) : inOrder ((connective, first) :: others) = false := by
  induction others generalizing first with
  | nil => simp at restricted
  | cons next others ih =>
    obtain ⟨between, value⟩ := next
    obtain ⟨here, later⟩ := List.forall_mem_cons.mp fails
    obtain rfl : value = false := here
    rw [inOrder_cons]
    cases between with
    | and =>
      rw [Connective.apply, Bool.and_false]
      exact inOrder_false later connective
    | or =>
      apply ih later
      simpa using restricted

/-! ## Truth values by position -/

theorem judge_cons (truth : Nat → Bool) (condition : Connective × α)
    (others : List (Connective × α)) :
    judge truth (condition :: others) =
      (condition.1, truth 0) :: judge (fun position => truth (position + 1)) others :=
  List.mapIdx_cons

/-- A truth value in front of all others. -/
def ahead (first : Bool) (truth : Nat → Bool) : Nat → Bool
  | 0 => first
  | position + 1 => truth position

theorem judge_ahead (first : Bool) (truth : Nat → Bool) (condition : Connective × α)
    (others : List (Connective × α)) :
    judge (ahead first truth) (condition :: others) =
      (condition.1, first) :: judge truth others := judge_cons _ _ _

theorem map_fst_judge (truth : Nat → Bool) (conditions : List (Connective × α)) :
    (judge truth conditions).map Prod.fst = conditions.map Prod.fst := by
  induction conditions generalizing truth with
  | nil => rfl
  | cons condition others ih => rw [judge_cons, List.map_cons, List.map_cons, ih]

theorem orsLast_judge (truth : Nat → Bool) (conditions : List (Connective × α)) :
    OrsLast (judge truth conditions) ↔ OrsLast conditions := by
  rw [OrsLast, OrsLast, List.map_tail, List.map_tail, map_fst_judge]

/-- Behind an `OR` with an `AND` after it, no condition holds; all others do. -/
theorem exists_separating (connective : Connective) (content : α)
    {others : List (Connective × α)} (mixed : ¬ OrsLast ((connective, content) :: others)) :
    ∃ truth, byPrecedence ((connective, true) :: judge truth others) = true ∧
      inOrder ((connective, true) :: judge truth others) = false := by
  induction others with
  | nil => exact absurd List.Pairwise.nil mixed
  | cons condition others ih =>
    obtain ⟨between, next⟩ := condition
    cases between with
    | and =>
      have later : ¬ OrsLast ((connective, content) :: others) := by
        intro orsLast
        refine mixed (List.pairwise_cons.mpr ⟨?_, orsLast⟩)
        rintro _ - ⟨⟨⟩, -⟩
      obtain ⟨truth, kept, lost⟩ := ih later
      refine ⟨ahead true truth, ?_⟩
      rw [judge_ahead, byPrecedence_cons_and, inOrder_cons]
      exact ⟨kept, lost⟩
    | or =>
      have restricted : .and ∈ others.map Prod.fst := by
        by_contra none
        have noAnd : ∀ later ∈ others.map Prod.fst, later ≠ .and := fun later mem behind =>
          none (behind ▸ mem)
        refine mixed (List.pairwise_cons.mpr ⟨?_, ?_⟩)
        · exact fun later mem both => noAnd later mem both.2
        · exact List.pairwise_of_forall_mem_list fun _ _ later mem both => noAnd later mem both.2
      refine ⟨fun _ => false, ?_, ?_⟩
      · rw [judge_cons, byPrecedence_cons_or, Bool.true_or]
      · rw [judge_cons, inOrder_cons]
        apply inOrder_false_of_and
        · intro next mem
          obtain ⟨position, inside, rfl⟩ := List.mem_mapIdx.mp mem
          rfl
        · rwa [map_fst_judge]

/-- The two meanings agree for all truth values exactly if no `AND` comes after an `OR`. -/
theorem forall_byPrecedence_eq_inOrder_iff {conditions : List (Connective × α)}
    (some : conditions ≠ []) :
    (∀ truth, byPrecedence (judge truth conditions) = inOrder (judge truth conditions)) ↔
      OrsLast conditions := by
  obtain ⟨⟨connective, content⟩, others, rfl⟩ := List.exists_cons_of_ne_nil some
  constructor
  · intro agree
    by_contra mixed
    obtain ⟨truth, kept, lost⟩ := exists_separating connective content mixed
    have same := agree (ahead true truth)
    rw [judge_ahead, kept, lost] at same
    exact Bool.noConfusion same
  · intro orsLast truth
    have judged := (orsLast_judge truth ((connective, content) :: others)).mpr orsLast
    rw [judge_cons] at judged ⊢
    exact byPrecedence_eq_inOrder judged

end Filter

namespace Select

open Statements.Filter

/-- **When a clause means its conditions in order.** The calls of a select flow lead to a session
whose clause is the text of the blocks of its conditions. Read by precedence, it agrees with the
conditions taken in order for all their truth values exactly if no `AND` comes after an `OR`. -/
theorem Flow.clause_inOrder_iff (columns : List String) (flow : Flow)
    (filtered : flow.groups.flattened ≠ []) :
    (∃ session query, run columns flow.calls = .ok session ∧
      session.statement? = some (.select query) ∧
      query.filter.text? = some ("WHERE " ++ disjunction (blocks flow.groups.flattened))) ∧
    ((∀ truth : Nat → Bool, byPrecedence (judge truth flow.groups.flattened) =
        inOrder (judge truth flow.groups.flattened)) ↔
      OrsLast flow.groups.flattened) := by
  refine ⟨⟨flow.session columns, flow.query columns, run_calls columns flow,
    flow.statement?_session columns, ?_⟩, forall_byPrecedence_eq_inOrder_iff filtered⟩
  have written := GroupCalls.written_filter flow.groups
  rw [← written] at filtered ⊢
  exact text?_eq_disjunction filtered

/-- An alternative, and one more condition behind it. -/
def behindAlternative (connective : Connective) : Flow where
  table := ⟨"events", by decide⟩
  groups := [(.or, []), (.or, [.raw "a"]), (.or, [.raw "b"]), (connective, [.raw "c"])]
  order := none
  page := none

theorem Flow.clause_behindAlternative :
    (∀ connective, (behindAlternative connective).groups.flattened ≠ []) ∧
      blocks (behindAlternative .and).groups.flattened = [["a"], ["b", "c"]] ∧
      (∃ truth, byPrecedence (judge truth (behindAlternative .and).groups.flattened) ≠
        inOrder (judge truth (behindAlternative .and).groups.flattened)) ∧
      ∀ truth, byPrecedence (judge truth (behindAlternative .or).groups.flattened) =
        inOrder (judge truth (behindAlternative .or).groups.flattened) := by
  have filtered : ∀ connective, (behindAlternative connective).groups.flattened ≠ [] :=
    fun _ => List.cons_ne_nil _ _
  refine ⟨filtered, by decide, ?_, ?_⟩
  · by_contra agree
    push Not at agree
    exact absurd ((clause_inOrder_iff [] _ (filtered .and)).2.mp agree) (by decide)
  · exact (clause_inOrder_iff [] _ (filtered .or)).2.mpr (by decide)

end Select

end Statements
