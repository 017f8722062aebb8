import Mathlib.Logic.Function.Iterate
import TapeMachine.Run

/-!
# The configurations of a run

A run is driven from outside, one configuration at a time.  The configurations
it yields nevertheless form one sequence: each of them comes from the one before
by one step of the machine, and the sequence ends with the first that halts.

This module states the sequence as a recurrence on the place of a
configuration.  Facts about whole runs follow from it by induction on the place.
-/

namespace TapeMachine

/-- The configuration of a run after the given one, if the given one does not halt. -/
def Machine.successor?
    (machine : Machine) (configuration : Configuration) :
    Option Configuration :=
  if machine.isHalting configuration.state then none
  else some (machine.step configuration)

theorem Machine.isHalting_iff
    (machine : Machine) (state : String) :
    machine.isHalting state = true ↔
      state = machine.accept ∨ state = machine.reject := by
  simp [isHalting]

namespace Run

@[simp]
theorem isOver_advance (run : Run) :
    run.advance.isOver = run.machine.isHalting run.advance.latest.state := by
  simp [isOver]

theorem nth_zero (run : Run) :
    (run.nth 0).1 =
      if run.isOver then none else some run.advance.latest := by
  simp only [nth, next]
  split <;> rfl

theorem nth_succ_eq_nth_advance
    (run : Run) (index : Nat) :
    (run.nth (index + 1)).1 =
      if run.isOver then none else (run.advance.nth index).1 := by
  simp only [nth]
  split <;> rfl

theorem nth_of_isOver
    {run : Run}
    (finished : run.isOver = true) (index : Nat) :
    run.nth index = (none, run) := by
  cases index with
  | zero => simp [nth, next, finished]
  | succ index => simp [nth, finished]

/-- The configuration at a place is yielded once the ones before it were. -/
theorem nth_eq_next_iterate
    (run : Run) (index : Nat) :
    run.nth index = ((fun run => run.next.2)^[index] run).next := by
  induction index generalizing run with
  | zero => rfl
  | succ index induction =>
      rw [Function.iterate_succ_apply, ← induction run.next.2]
      by_cases finished : run.isOver
      · have stays : run.next.2 = run := by simp [next, finished]
        rw [stays, nth_of_isOver finished, nth_of_isOver finished]
      · have goesOn : run.next.2 = run.advance := by simp [next, finished]
        rw [goesOn]
        simp [nth, finished]

/-- A configuration is yielded after another that does not halt, and is one step further. -/
theorem nth_succ
    (run : Run) (index : Nat) :
    (run.nth (index + 1)).1 =
      (run.nth index).1.bind run.machine.successor? := by
  induction index generalizing run with
  | zero =>
      rw [nth_succ_eq_nth_advance, nth_zero, nth_zero]
      by_cases finished : run.isOver
      · simp [finished]
      · simp [finished, Machine.successor?, latest_advance run.advance]
  | succ index induction =>
      rw [nth_succ_eq_nth_advance, nth_succ_eq_nth_advance run index,
        induction run.advance]
      by_cases finished : run.isOver
      · simp [finished]
      · simp [finished]

@[simp]
theorem nth_begin_zero
    (machine : Machine) (word : String) :
    ((begin machine word).nth 0).1 = some (machine.initial word) := by
  rw [nth_zero, isOver_begin]
  rfl

/-- The sequence of the configurations of a run from its beginning. -/
theorem nth_begin_succ
    (machine : Machine) (word : String) (index : Nat) :
    ((begin machine word).nth (index + 1)).1 =
      ((begin machine word).nth index).1.bind machine.successor? :=
  nth_succ (begin machine word) index

end Run

end TapeMachine
