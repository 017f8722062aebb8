import TapeMachine.Description
import TapeMachine.Tape.Infinite

/-!
# The textbook machine

How a description is meant to run, without a table and without a store: the
tape is infinite, a step applies a transition of the description that fits, and
where none fits it moves to the rejecting state.  The symbol that stands for the
blank in the description, and the blank itself, are one symbol.  A run ends at
the first configuration in a halting state.
-/

namespace TapeMachine.Textbook

/-- A state and an infinite tape. -/
structure Configuration where
  state : String
  tape : InfiniteTape

/-- The configuration every run on a word begins with. -/
def initial (description : Description) (word : String) : Configuration where
  state := description.start
  tape := .ofSymbols (word.toList.map description.internal)

/-- Whether a transition fits a configuration. -/
def Fits (description : Description) (configuration : Configuration)
    (transition : Transition) : Prop :=
  transition ∈ description.transitions ∧ transition.state = configuration.state ∧
    description.internal transition.symbol = configuration.tape.read

/-- The second configuration follows the first by one step. -/
inductive Step (description : Description) : Configuration → Configuration → Prop where
  | move {configuration : Configuration} {transition : Transition}
      (fits : Fits description configuration transition) :
      Step description configuration {
        state := transition.next
        tape := configuration.tape.apply (description.internal transition.write)
          transition.direction }
  | stuck {configuration : Configuration}
      (none_fits : ∀ transition, ¬ Fits description configuration transition) :
      Step description configuration { configuration with state := description.reject }

/-- A state that ends every run. -/
def Halting (description : Description) (state : String) : Prop :=
  state = description.accept ∨ state = description.reject

/-- The run on a word has the given configuration at the given place, counted from zero. -/
inductive Reaches (description : Description) (word : String) : Nat → Configuration → Prop where
  | start : Reaches description word 0 (initial description word)
  | next {count : Nat} {before after : Configuration}
      (reached : Reaches description word count before)
      (goes_on : ¬ Halting description before.state)
      (step : Step description before after) :
      Reaches description word (count + 1) after

end TapeMachine.Textbook
