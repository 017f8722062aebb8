import TapeMachine.Tape.Content

/-!
# Configurations

A configuration is the whole condition of a machine between two steps: its
state and its tape.
-/

namespace TapeMachine

/-- The state and the tape of a machine between two steps. -/
structure Configuration where
  state : String
  tape : Tape
  deriving BEq, Hashable

namespace Configuration

/-- The configuration as `state: tape`, blank cells shown as `shownBlank`. -/
def render (configuration : Configuration) (shownBlank : Symbol) : String :=
  configuration.state ++ ": " ++ configuration.tape.render shownBlank

end Configuration

end TapeMachine
