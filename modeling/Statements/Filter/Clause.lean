import Statements.Filter.Predicate

/-!
# Filters

A filter collects conditions from several calls, each of which brings a group of predicates and
one connective. The clause is flat: every condition is in parentheses, and before each but the
first stands its connective. So the connective of the first condition is kept and never written,
and the reader of the clause applies the precedence of the query language, not the order of the
calls.
-/

namespace Statements

inductive Connective where
  | and
  | or
deriving DecidableEq

def Connective.text : Connective → String
  | .and => "AND"
  | .or => "OR"

/-- A predicate and the connective that ties it to what stands before it. -/
structure Condition where
  connective : Connective
  predicate : Predicate

/-- The condition's predicate in parentheses. -/
def Condition.text (condition : Condition) : String := "(" ++ condition.predicate.text ++ ")"

/-- The condition as it follows another. -/
def Condition.joined (condition : Condition) : String :=
  " " ++ condition.connective.text ++ " " ++ condition.text

/-- The conditions of one statement, in the order in which they were added. -/
structure Filter where
  conditions : List Condition

namespace Filter

def empty : Filter := ⟨[]⟩

def isEmpty (filter : Filter) : Bool := filter.conditions.isEmpty

/-- Add a group. Every predicate of it is tied with the group's connective, and an empty group
adds nothing. -/
def push (filter : Filter) (connective : Connective) (group : List Predicate) : Filter :=
  ⟨filter.conditions ++ group.map fun predicate => ⟨connective, predicate⟩⟩

/-- The clause, if there is any condition. -/
def text? (filter : Filter) : Option String :=
  match filter.conditions with
  | [] => none
  | first :: others => some ("WHERE " ++ first.text ++ String.join (others.map Condition.joined))

end Filter

end Statements
