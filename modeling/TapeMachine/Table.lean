import Std.Data.HashMap
import TapeMachine.Description

/-!
# Rule tables

A table finds a rule in two steps, first by the state and then by the symbol
under the head.  It is filled rule by rule, and no rule is ever replaced: one
whose situation was already taken ends the filling.
-/

namespace TapeMachine

-- The hash is given by name: there is more than one for characters.
/-- The rules for one state, by their symbol. -/
abbrev Table.Row := @Std.HashMap Symbol Transition instBEqOfDecidableEq instHashableChar

/-- Rules by their state, and those of one state by their symbol. -/
abbrev Table := Std.HashMap String Table.Row

namespace Table

/-- The rules for one state. -/
def row (table : Table) (state : String) : Row :=
  table.getD state ∅

/-- The rule for a state and a symbol, if there is one. -/
def rule? (table : Table) (state : String) (symbol : Symbol) : Option Transition :=
  (table.row state)[symbol]?

/-- The number of rules, counted state by state. -/
def count (table : Table) : Nat :=
  (table.toList.map fun (_, row) => row.size).foldr (· + ·) 0

/-- Adds a rule, or names it if its situation was already taken. -/
def add (table : Table) (rule : Transition) : Except Transition Table :=
  let row := table.row rule.state
  if rule.symbol ∈ row then .error rule
  else .ok (table.insert rule.state (row.insert rule.symbol rule))

/-- Adds rules in order, up to the first one that cannot be added. -/
def fill (table : Table) (rules : List Transition) : Except Transition Table :=
  rules.foldlM add table

end Table

end TapeMachine
