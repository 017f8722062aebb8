import TapeMachine.Error
import TapeMachine.Machine

/-!
# Building machines

Building reports a repeated situation as an error, in the symbols of whoever
gave the transitions: for a description, a blank is shown as the description
writes it.
-/

namespace TapeMachine

/-- The machine with the given rules, which are in terms of the symbols on the tape. -/
def Machine.build (start accept reject : String) (rules : List Transition) :
    Except MachineError Machine :=
  match Machine.ofRules start accept reject rules with
  | .ok machine => .ok machine
  | .error rule => .error (.duplicateTransition rule.state rule.symbol)

/-- The machine a description describes. -/
def Description.build (description : Description) : Except MachineError Machine :=
  match Machine.ofDescription description with
  | .ok machine => .ok machine
  | .error rule =>
    .error (.duplicateTransition rule.state (description.presented rule.symbol))

end TapeMachine
