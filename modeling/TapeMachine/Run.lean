import TapeMachine.Machine

/-!
# Runs

A run yields the configurations of a machine on a word, one at a time, up to
and including the first one in a halting state.  It holds the configuration it
yielded last, so that this can be asked for again, and it performs at most one
step when the next one is wanted.
-/

namespace TapeMachine

/-- A run under way. -/
structure Run where
  machine : Machine
  /-- The configuration yielded last, or the one to begin with. -/
  latest : Configuration
  started : Bool

namespace Run

/-- The run of a machine on a word, before anything is yielded. -/
def begin (machine : Machine) (word : String) : Run where
  machine
  latest := machine.initial word
  started := false

/-- The same machine at the beginning of a run on another word. -/
def restart (run : Run) (word : String) : Run :=
  begin run.machine word

/-- Whether everything was yielded: the last configuration yielded halts. -/
def isOver (run : Run) : Bool :=
  run.started && run.machine.isHalting run.latest.state

/-- The run with one more configuration yielded, whether or not it is over. -/
def advance (run : Run) : Run :=
  match run with
  | { machine, latest, started } =>
    { machine, latest := if started then machine.step latest else latest, started := true }

@[simp]
theorem machine_advance (run : Run) : run.advance.machine = run.machine :=
  rfl

@[simp]
theorem started_advance (run : Run) : run.advance.started = true :=
  rfl

theorem latest_advance (run : Run) :
    run.advance.latest = if run.started then run.machine.step run.latest else run.latest :=
  rfl

@[simp]
theorem isOver_begin (machine : Machine) (word : String) : (begin machine word).isOver = false :=
  rfl

/-- Yields the next configuration, if there is one. -/
def next (run : Run) : Option Configuration × Run :=
  if run.isOver then (none, run)
  else
    let further := run.advance
    (some further.latest, further)

/-- Leaves out `count` configurations and yields the one after them, if there is one. -/
def nth : Nat → Run → Option Configuration × Run
  | 0, run => run.next
  | count + 1, run => if run.isOver then (none, run) else nth count run.advance

/-- The configuration yielded last. -/
def current? (run : Run) : Option Configuration :=
  if run.started then some run.latest else none

/-- Yields the next `count` configurations, or as many as are left. -/
def take : Nat → Run → List Configuration × Run
  | 0, run => ([], run)
  | count + 1, run =>
    if run.isOver then ([], run)
    else
      let further := run.advance
      let (later, final) := take count further
      (further.latest :: later, final)

/--
Yields the next `count` configurations, or as many as are left, and keeps only
the last; the number of those yielded is added to `yielded`.
-/
def skip (yielded : Nat) : Nat → Run → Nat × Run
  | 0, run => (yielded, run)
  | count + 1, run =>
    if run.isOver then (yielded, run) else skip (yielded + 1) count run.advance

/-- As many are left out as would have been yielded, and the run is where it would be then. -/
theorem skip_eq_take (yielded count : Nat) (run : Run) :
    skip yielded count run =
      (yielded + (run.take count).1.length, (run.take count).2) := by
  induction count generalizing yielded run with
  | zero => rfl
  | succ count induction =>
    rw [skip, take]
    split
    · rfl
    · rw [induction, Nat.add_right_comm]
      rfl

end Run

end TapeMachine
