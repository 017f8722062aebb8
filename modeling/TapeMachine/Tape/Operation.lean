import TapeMachine.Tape.Basic

/-!
# Operations as data

What was done to a tape is a list of operations.  A machine only writes and
moves in turn; others may do so in any order.
-/

namespace TapeMachine.Tape

/-- Something done to a tape. -/
inductive Operation where
  | write (symbol : Symbol)
  | shift (direction : Direction)
  /-- A write and then a movement. -/
  | apply (symbol : Symbol) (direction : Direction)
  deriving DecidableEq

/-- Does one thing to a tape. -/
def act (tape : Tape) : Operation → Tape
  | .write symbol => tape.write symbol
  | .shift direction => tape.shift direction
  | .apply symbol direction => tape.apply symbol direction

/-- Does several things to a tape, one after the other. -/
def perform (tape : Tape) (operations : List Operation) : Tape :=
  operations.foldl act tape

@[simp]
theorem perform_nil (tape : Tape) : tape.perform [] = tape :=
  rfl

@[simp]
theorem perform_cons (tape : Tape) (operation : Operation) (rest : List Operation) :
    tape.perform (operation :: rest) = (tape.act operation).perform rest :=
  rfl

end TapeMachine.Tape
