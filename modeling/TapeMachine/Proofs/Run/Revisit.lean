import TapeMachine.Proofs.Run.Calls
import TapeMachine.Proofs.Run.Equality

/-!
# Runs that come back

A machine acts alike on equal configurations.  So a course that meets a
configuration equal to an earlier one goes the same way again from there, and
again after that.  Equality forgets where on the tape the head stands and how
the tape is stored, so the way may lead ever further along the tape.

No configuration on such a course halts.  The ones before the second visit do
not, since the run went on after them; and each one behind it equals one that is
closer to the beginning.
-/

namespace TapeMachine

namespace Machine

theorem steps_beq
    (machine : Machine) {left right : Configuration}
    (equal : (left == right) = true) (count : Nat) :
    (machine.steps count left == machine.steps count right) = true := by
  induction count with
  | zero => exact equal
  | succ count induction =>
      rw [steps_succ, steps_succ]
      exact machine.step_beq induction

section Revisit

variable
    {machine : Machine}
    {word : String}
    {first second : Nat}

/-- The course goes on alike from two equal configurations on it. -/
theorem course_add_beq
    (equal :
      (machine.course word first == machine.course word second) = true)
    (more : Nat) :
    (machine.course word (first + more) ==
      machine.course word (second + more)) = true := by
  simp only [course, steps_add]
  exact machine.steps_beq equal more

theorem isHalting_course_of_revisit
    (ordered : first < second)
    (within : (second : ℕ∞) ≤ machine.lastPlace word)
    (equal :
      (machine.course word first == machine.course word second) = true)
    (place : Nat) :
    machine.isHalting (machine.course word place).state = false := by
  induction place using Nat.strong_induction_on with
  | h place induction =>
      rcases Nat.lt_or_ge place second with before | behind
      · exact le_lastPlace_iff.mp within place before
      · -- Behind the second visit the course repeats what it did behind the first.
        rcases Nat.exists_eq_add_of_le behind with ⟨more, rfl⟩
        have sameState :=
          ((Configuration.beq_iff _ _).mp (course_add_beq equal more)).1
        rw [← sameState]
        exact induction (first + more) (Nat.add_lt_add_right ordered more)

theorem lastPlace_eq_top_of_revisit
    (ordered : first < second)
    (within : (second : ℕ∞) ≤ machine.lastPlace word)
    (equal :
      (machine.course word first == machine.course word second) = true) :
    machine.lastPlace word = ⊤ := by
  rw [ENat.eq_top_iff_forall_ge]
  intro place
  rw [le_lastPlace_iff]
  intro earlier _
  exact isHalting_course_of_revisit ordered within equal earlier

end Revisit

end Machine

namespace Run

/--
A run that yields a configuration equal to one it yielded before never ends.
Whatever it was asked before, it has a next configuration; none of those it
yields halts; and it goes on alike from the two equal ones.
-/
theorem endless_of_revisit
    (machine : Machine) (word : String)
    {first second : Nat} {left right : Configuration}
    (ordered : first < second)
    (yieldsLeft : ((begin machine word).nth first).1 = some left)
    (yieldsRight : ((begin machine word).nth second).1 = some right)
    (equal : (left == right) = true) :
    (∀ calls : List Call, (∀ call ∈ calls, call.Continues) →
      ((begin machine word).followAll calls).next.1 ≠ none) ∧
    (∀ (place : Nat) (configuration : Configuration),
      ((begin machine word).nth place).1 = some configuration →
        machine.isHalting configuration.state = false) ∧
    ∀ more : Nat, ∃ laterLeft laterRight : Configuration,
      ((begin machine word).nth (first + more)).1 = some laterLeft ∧
      ((begin machine word).nth (second + more)).1 = some laterRight ∧
      (laterLeft == laterRight) = true := by
  rw [nth_begin_eq_some_iff] at yieldsLeft yieldsRight
  rcases yieldsLeft with ⟨-, rfl⟩
  rcases yieldsRight with ⟨within, rfl⟩
  have endless := Machine.lastPlace_eq_top_of_revisit ordered within equal
  have onCourse (place : Nat) : (place : ℕ∞) ≤ machine.lastPlace word := by
    rw [endless]
    exact le_top
  refine ⟨?_, ?_, ?_⟩
  · intro calls continues
    have sameWord :=
      (Tally.followAll_of_continues machine ⟨word, 0⟩ continues).1
    rw [followAll_begin, next_afterAsking, sameWord,
      Machine.yielded?_of_le (onCourse _)]
    exact Option.some_ne_none _
  · intro place configuration yields
    rcases nth_begin_eq_some_iff.mp yields with ⟨-, rfl⟩
    exact
      Machine.isHalting_course_of_revisit ordered within equal place
  · intro more
    exact
      ⟨_, _, nth_begin_eq_some_iff.mpr ⟨onCourse _, rfl⟩,
        nth_begin_eq_some_iff.mpr ⟨onCourse _, rfl⟩,
        Machine.course_add_beq equal more⟩

/-- A machine that leaves an ever longer track of blanks behind its head. -/
def drifting : Machine where
  start := "on"
  accept := "yes"
  reject := "no"
  blank? := none
  rules := [⟨"on", Symbol.blank, "on", Symbol.blank, .right⟩]
  deterministic := by decide

/-- The head stands elsewhere by then, and behind more stored cells. -/
theorem endless_of_revisit_drifting :
    (drifting.course "" 0 == drifting.course "" 2) = true ∧
    (drifting.course "" 0).tape.head ≠ (drifting.course "" 2).tape.head ∧
    (drifting.course "" 0).tape.storedLength ≠
      (drifting.course "" 2).tape.storedLength ∧
    ∀ calls : List Call, (∀ call ∈ calls, call.Continues) →
      ((begin drifting "").followAll calls).next.1 ≠ none := by
  have yieldsFirst :
      ((begin drifting "").nth 0).1 = some (drifting.course "" 0) := rfl
  have yieldsSecond :
      ((begin drifting "").nth 2).1 = some (drifting.course "" 2) := rfl
  have equal : (drifting.course "" 0 == drifting.course "" 2) = true := by
    decide +kernel
  refine ⟨equal, by decide, by decide, ?_⟩
  exact
    (endless_of_revisit drifting "" (by decide) yieldsFirst yieldsSecond
      equal).1

end Run

end TapeMachine
