import Mathlib.Data.List.Forall2
import Mathlib.Data.List.Induction
import Mathlib.Data.List.Nodup
import Statements.Entries

/-!
# What collapsing keeps

`collapse` goes through a list of entries and puts each of them into the list kept so far. What it
keeps can be said without the loop: every name once, in the order of the first occurrences
(`names_collapse`), and under each name the value of its last occurrence (`first?_collapse`). As no
name is left twice, the two determine the list; a list that repeats no name is kept as it is. A
search through the collapsed entries goes by both at once (`findSome?_collapse`).

Values play no part in where they are put. So lists whose entries are related one by one are still
related when both are collapsed (`Related.collapse`), and values may be changed before or after
(`mapValues_collapse`).
-/

namespace Statements.Entries

variable {α β : Type}

/-- The value of the last entry of that name. -/
def last? (entries : Entries α) (name : String) : Option α := entries.reverse.lookup name

/-- All values given to the name, in order. -/
def given (entries : Entries α) (name : String) : List α :=
  (entries.filter fun entry => entry.1 = name).map Prod.snd

/-! ## One entry -/

theorem first?_cons (known name : String) (value : α) (rest : Entries α) :
    first? ((known, value) :: rest) name =
      if name = known then some value else first? rest name := by
  by_cases same : name = known
  · subst same
    rw [first?, List.lookup_cons, BEq.rfl, if_pos rfl]
  · have test : (name == known) = false := beq_eq_false_iff_ne.mpr same
    rw [first?, List.lookup_cons, test, if_neg same]
    rfl

theorem last?_concat (entries : Entries α) (known name : String) (value : α) :
    last? (entries ++ [(known, value)]) name =
      if name = known then some value else last? entries name := by
  rw [last?, List.reverse_concat]
  exact first?_cons known name value _

theorem names_concat (entries : Entries α) (name : String) (value : α) :
    names (entries ++ [(name, value)]) = names entries ++ [name] := List.map_append

theorem first?_eq_find? (entries : Entries α) (name : String) :
    first? entries name = (entries.find? fun entry => entry.1 = name).map Prod.snd := by
  induction entries with
  | nil => rfl
  | cons entry rest ih =>
    obtain ⟨known, value⟩ := entry
    rw [first?_cons, ih]
    by_cases same : known = name
    · simp [same]
    · simp [same, Ne.symm same]

/-- Looking a name up answers the first of its values. -/
theorem first?_eq_head?_given (entries : Entries α) (name : String) :
    first? entries name = (given entries name).head? := by
  rw [first?_eq_find?, given, List.head?_map, List.head?_filter]

theorem last?_eq_getLast?_given (entries : Entries α) (name : String) :
    last? entries name = (given entries name).getLast? := by
  have turned : given entries.reverse name = (given entries name).reverse := by
    rw [given, List.filter_reverse, List.map_reverse, given]
  calc entries.reverse.lookup name
      = (given entries.reverse name).head? := first?_eq_head?_given entries.reverse name
    _ = (given entries name).getLast? := by rw [turned, List.head?_reverse]

/-- A name that is nowhere has no last value, and no other name lacks one. -/
theorem last?_eq_none_iff {entries : Entries α} {name : String} :
    last? entries name = none ↔ name ∉ names entries := by
  induction entries using List.reverseRecOn with
  | nil => exact ⟨fun _ => List.not_mem_nil, fun _ => rfl⟩
  | append_singleton entries entry ih =>
    obtain ⟨known, value⟩ := entry
    rw [last?_concat, names_concat, List.mem_append, List.mem_singleton]
    by_cases same : name = known
    · simp [same]
    · simpa [same] using ih

/-- Putting a value changes what the name answers and nothing else. -/
theorem first?_put (entries : Entries α) (known name : String) (value : α) :
    first? (entries.put known value) name =
      if name = known then some value else first? entries name := by
  induction entries with
  | nil => exact first?_cons known name value []
  | cons entry rest ih =>
    obtain ⟨front, old⟩ := entry
    by_cases here : front = known
    · subst here
      rw [put, if_pos rfl, first?_cons, first?_cons]
      by_cases same : name = front <;> simp [same]
    · rw [put, if_neg here, first?_cons, first?_cons, ih]
      by_cases same : name = front
      · subst same
        simp [here]
      · simp [same]

/-- A name that is there stays where it is, and a new one comes last. -/
theorem names_put (entries : Entries α) (name : String) (value : α) :
    names (entries.put name value) =
      if name ∈ names entries then names entries else names entries ++ [name] := by
  induction entries with
  | nil => rfl
  | cons entry rest ih =>
    obtain ⟨front, old⟩ := entry
    by_cases here : front = name
    · subst here
      have among : front ∈ names ((front, old) :: rest) := List.mem_cons_self
      rw [put, if_pos rfl, if_pos among]
      rfl
    · have apart : name ≠ front := Ne.symm here
      rw [put, if_neg here]
      show front :: names (put rest name value) = if name ∈ front :: names rest then _ else _
      rw [ih]
      by_cases among : name ∈ names rest
      · rw [if_pos among, if_pos (List.mem_cons_of_mem front among)]
        rfl
      · rw [if_neg among, if_neg (List.not_mem_cons_of_ne_of_not_mem apart among)]
        rfl

/-- A new name comes last. -/
theorem put_of_not_mem {entries : Entries α} {name : String} (new : name ∉ names entries)
    (value : α) : entries.put name value = entries ++ [(name, value)] := by
  induction entries with
  | nil => rfl
  | cons entry rest ih =>
    obtain ⟨front, old⟩ := entry
    obtain ⟨apart, among⟩ := not_or.mp (mt List.mem_cons.mpr new)
    rw [put, if_neg (Ne.symm apart), ih among]
    rfl

/-- Among entries that repeat no name, an entry is what its name answers. -/
theorem mem_iff_first?_eq_some {entries : Entries α} (nodup : (names entries).Nodup)
    {name : String} {value : α} : (name, value) ∈ entries ↔ first? entries name = some value := by
  induction entries with
  | nil =>
    constructor
    · intro mem
      cases mem
    · intro found
      cases found
  | cons entry rest ih =>
    obtain ⟨known, old⟩ := entry
    obtain ⟨new, others⟩ := List.nodup_cons.mp nodup
    rw [List.mem_cons, first?_cons, ih others]
    by_cases same : name = known
    · subst same
      have later : first? rest name ≠ some value := by
        intro found
        exact new (List.mem_map.mpr ⟨(name, value), (ih others).mpr found, rfl⟩)
      simp [later, eq_comm]
    · simp [same]

/-! ## All entries -/

theorem collapse_concat (entries : Entries α) (name : String) (value : α) :
    collapse (entries ++ [(name, value)]) = (collapse entries).put name value :=
  List.foldl_concat _ _ _ _

/-- **Every name once, in the order of the first occurrences.** -/
theorem names_collapse (entries : Entries α) :
    names (collapse entries) = (names entries).eraseDups := by
  induction entries using List.reverseRecOn with
  | nil => rfl
  | append_singleton entries entry ih =>
    obtain ⟨name, value⟩ := entry
    rw [collapse_concat, names_put, names_concat, List.eraseDups_append, ih]
    by_cases among : name ∈ names entries
    · simp [List.mem_eraseDups, List.removeAll, among]
    · simp [List.mem_eraseDups, List.removeAll, among, List.eraseDups_cons]

/-- **Under each name, the value of its last occurrence.** -/
theorem first?_collapse (entries : Entries α) (name : String) :
    first? (collapse entries) name = last? entries name := by
  induction entries using List.reverseRecOn with
  | nil => rfl
  | append_singleton entries entry ih =>
    obtain ⟨known, value⟩ := entry
    rw [collapse_concat, first?_put, last?_concat, ih]

theorem nodup_names_collapse (entries : Entries α) : (names (collapse entries)).Nodup := by
  induction entries using List.reverseRecOn with
  | nil => exact List.nodup_nil
  | append_singleton entries entry ih =>
    obtain ⟨name, value⟩ := entry
    rw [collapse_concat, names_put]
    split
    · exact ih
    · next new => exact List.nodup_append_comm.mp (List.nodup_cons.mpr ⟨new, ih⟩)

/-- Entries that repeat no name are kept as they are. -/
theorem collapse_of_nodup {entries : Entries α} (nodup : (names entries).Nodup) :
    collapse entries = entries := by
  induction entries using List.reverseRecOn with
  | nil => rfl
  | append_singleton entries entry ih =>
    obtain ⟨name, value⟩ := entry
    rw [names_concat] at nodup
    obtain ⟨new, others⟩ := List.nodup_cons.mp (List.nodup_append_comm.mp nodup)
    rw [collapse_concat, ih others, put_of_not_mem new]

theorem collapse_collapse (entries : Entries α) :
    collapse (collapse entries) = collapse entries :=
  collapse_of_nodup (nodup_names_collapse entries)

/-- The last occurrence of a name is the only one that is left. -/
theorem last?_collapse (entries : Entries α) (name : String) :
    last? (collapse entries) name = last? entries name := by
  rw [← first?_collapse (collapse entries), collapse_collapse, first?_collapse]

/-! ## The first entry that a test takes -/

/-- A repetition finds nothing that was not found before. -/
theorem findSome?_eraseDups (names : List String) (test : String → Option β) :
    names.eraseDups.findSome? test = names.findSome? test := by
  induction names using List.reverseRecOn with
  | nil => rfl
  | append_singleton names name ih =>
    rw [List.eraseDups_append, List.findSome?_append, List.findSome?_append, ih]
    by_cases among : name ∈ names
    · cases found : names.findSome? test with
      | some answer => rfl
      | none =>
        have nothing : test name = none := List.findSome?_eq_none_iff.mp found name among
        simp [List.removeAll, among, nothing]
    · simp [List.removeAll, among, List.eraseDups_cons]

/-- Among entries that repeat no name, it is enough to ask for each name's value. -/
theorem findSome?_of_nodup {entries : Entries α} (nodup : (names entries).Nodup)
    (test : String → α → Option β) :
    entries.findSome? (fun entry => test entry.1 entry.2) =
      (names entries).findSome? fun name => (first? entries name).bind (test name) := by
  have answers : ∀ entry ∈ entries,
      test entry.1 entry.2 = (first? entries entry.1).bind (test entry.1) := by
    rintro ⟨name, value⟩ mem
    rw [(mem_iff_first?_eq_some nodup).mp mem]
    rfl
  rw [names, List.findSome?_map, ← List.head?_filterMap, List.filterMap_congr answers,
    List.head?_filterMap]
  rfl

/-- **Of collapsed entries the first is found in the order of the first occurrences and judged by
the last ones.** -/
theorem findSome?_collapse (entries : Entries α) (test : String → α → Option β) :
    (collapse entries).findSome? (fun entry => test entry.1 entry.2) =
      (names entries).findSome? fun name => (last? entries name).bind (test name) := by
  rw [findSome?_of_nodup (nodup_names_collapse entries), names_collapse, findSome?_eraseDups]
  simp only [first?_collapse]

/-! ## Related entries -/

/-- The same names in the same order, with related values. -/
def Related (rel : α → β → Prop) (entries : Entries α) (others : Entries β) : Prop :=
  List.Forall₂ (fun entry other => entry.1 = other.1 ∧ rel entry.2 other.2) entries others

variable {rel : α → β → Prop} {entries : Entries α} {others : Entries β}

theorem Related.put (related : Related rel entries others) (name : String) {value : α}
    {other : β} (values : rel value other) :
    Related rel (entries.put name value) (others.put name other) := by
  induction related with
  | nil => exact .cons ⟨rfl, values⟩ .nil
  | @cons entry entry' rest rest' heads tails ih =>
    obtain ⟨front, old⟩ := entry
    obtain ⟨front', old'⟩ := entry'
    obtain ⟨names, olds⟩ := heads
    obtain rfl : front = front' := names
    by_cases here : front = name
    · rw [Entries.put, Entries.put, if_pos here, if_pos here]
      exact .cons ⟨rfl, values⟩ tails
    · rw [Entries.put, Entries.put, if_neg here, if_neg here]
      exact .cons ⟨rfl, olds⟩ ih

/-- **Related entries are related when collapsed.** -/
theorem Related.collapse (related : Related rel entries others) :
    Related rel entries.collapse others.collapse := by
  refine List.rel_foldl ?_ List.Forall₂.nil related
  rintro kept kept' sofar ⟨name, value⟩ ⟨name', value'⟩ ⟨names, values⟩
  obtain rfl : name = name' := names
  exact Related.put sofar name values

/-- Values of the same entries, changed in two ways. -/
theorem related_mapValues {γ : Type} {f : γ → α} {g : γ → β}
    (each : ∀ value, rel (f value) (g value)) (entries : Entries γ) : Related rel (entries.mapValues f) (entries.mapValues g) := by
  rw [Related, mapValues, mapValues, List.forall₂_map_left_iff, List.forall₂_map_right_iff,
    List.forall₂_same]
  exact fun entry _ => ⟨rfl, each entry.2⟩

theorem eq_mapValues_of_related {f : α → β}
    (related : Related (fun value changed => f value = changed) entries others) :
    others = entries.mapValues f := by
  induction related with
  | nil => rfl
  | @cons entry other rest rest' heads tails ih =>
    obtain ⟨name, value⟩ := entry
    obtain ⟨name', changed⟩ := other
    obtain ⟨rfl, rfl⟩ := heads
    rw [ih]
    rfl

/-- Values may be changed before or after. -/
theorem mapValues_collapse (f : α → β) (entries : Entries α) :
    (collapse entries).mapValues f = collapse (entries.mapValues f) := by
  have changed :
      Related (fun value changed => f value = changed) entries (entries.mapValues f) := by
    rw [Related, mapValues, List.forall₂_map_right_iff, List.forall₂_same]
    exact fun _ _ => ⟨rfl, rfl⟩
  exact (eq_mapValues_of_related changed.collapse).symm

theorem last?_mapValues (f : α → β) (entries : Entries α) (name : String) :
    last? (entries.mapValues f) name = (last? entries name).map f := by
  induction entries using List.reverseRecOn with
  | nil => rfl
  | append_singleton entries entry ih =>
    obtain ⟨known, value⟩ := entry
    have concat : mapValues f (entries ++ [(known, value)]) =
        mapValues f entries ++ [(known, f value)] := List.map_append
    rw [concat, last?_concat, last?_concat, ih]
    by_cases same : name = known <;> simp [same]

end Statements.Entries
