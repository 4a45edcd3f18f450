/-!
# Named entries in order

Rows, JSON objects, bound parameters and session slots are all lists of named entries. The list
order is the order in which the entries were made, and it shows in every text, so a table that
forgets it will not do. Two conventions meet here: `first?` answers the first entry of a name, and
`put` replaces the value of a name where it stands. `collapse` is what repeated `put` makes of a
list: each name once, at its first position, with its last value.
-/

namespace Statements

/-- Named entries, oldest first. Names may repeat. -/
abbrev Entries (α : Type) := List (String × α)

namespace Entries

variable {α β : Type}

/-- The names in order, with every repetition. -/
def names (entries : Entries α) : List String := entries.map Prod.fst

/-- The value of the first entry of that name. -/
def first? (entries : Entries α) (name : String) : Option α :=
  entries.lookup name

/-- The entries with every value changed and every name kept. -/
def mapValues (f : α → β) (entries : Entries α) : Entries β :=
  entries.map fun entry => (entry.1, f entry.2)

/-- Give a name a value: in place of the value it has, or as a new last entry. -/
def put : Entries α → String → α → Entries α
  | [], name, value => [(name, value)]
  | (known, old) :: rest, name, value =>
    if known = name then (known, value) :: rest else (known, old) :: put rest name value

/-- Each name once, at its first position, with its last value. -/
def collapse (entries : Entries α) : Entries α :=
  entries.foldl (fun kept entry => kept.put entry.1 entry.2) []

end Entries

end Statements
