import TapeMachine.Direction
import TapeMachine.Symbol

/-!
# Machine descriptions

A description says everything a machine needs: its three distinguished states,
the symbol that stands for the blank on paper, and the transitions.  A
description is only data.  It may hold two transitions for one situation; a
machine built from it may not.
-/

namespace TapeMachine

/--
One entry of the transition function: in `state`, reading `symbol`, the machine
writes `write`, moves its head in `direction`, and continues in `next`.
-/
structure Transition where
  state : String
  symbol : Symbol
  next : String
  write : Symbol
  direction : Direction
  deriving DecidableEq

namespace Transition

/-- The situation a transition applies to: a state, and the symbol under the head. -/
def key (transition : Transition) : String × Symbol :=
  (transition.state, transition.symbol)

/-- The transition as a line of a description file. -/
def line (transition : Transition) : String :=
  String.ofList
    (transition.state.toList ++ ' ' :: transition.symbol :: ' ' :: '-' :: '>' :: ' ' ::
      (transition.next.toList ++
        [' ', transition.write, ' ', transition.direction.mark]))

/-- The transition with every symbol it reads or writes replaced. -/
def mapSymbols (rename : Symbol → Symbol) (transition : Transition) : Transition :=
  { transition with symbol := rename transition.symbol, write := rename transition.write }

end Transition

/-- Everything needed to build a machine. -/
structure Description where
  start : String
  accept : String
  reject : String
  blank : Symbol
  transitions : List Transition
  deriving DecidableEq

namespace Description

/-- The symbol on the tape for a symbol of the description. -/
def internal (description : Description) (symbol : Symbol) : Symbol :=
  if symbol = description.blank then Symbol.blank else symbol

/-- The symbol of the description for a symbol on the tape. -/
def presented (description : Description) (symbol : Symbol) : Symbol :=
  symbol.present description.blank

@[simp]
theorem internal_blank (description : Description) :
    description.internal description.blank = Symbol.blank := by
  simp [internal]

/-- The transitions as the machine applies them, with the blank of the tape. -/
def rules (description : Description) : List Transition :=
  description.transitions.map (Transition.mapSymbols description.internal)

end Description

end TapeMachine
