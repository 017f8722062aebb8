import Mathlib.Data.ENat.Lattice
import TapeMachine.Proofs.Run.Sequence

/-!
# The course of a run

Steps can be made from any configuration, so a machine and a word determine an
endless sequence of configurations.  A run yields the part of it up to the first
configuration in a halting state, or all of it if there is none.

The place of that configuration is a number or infinity.  What a run yields at
some place is then settled by comparing the two places.
-/

namespace TapeMachine

namespace Machine

@[simp]
theorem steps_zero
    (machine : Machine) (configuration : Configuration) :
    machine.steps 0 configuration = configuration :=
  rfl

theorem steps_add
    (machine : Machine) (count further : Nat) (configuration : Configuration) :
    machine.steps (count + further) configuration =
      machine.steps further (machine.steps count configuration) := by
  induction count generalizing configuration with
  | zero => rw [Nat.zero_add, steps_zero]
  | succ count induction =>
      rw [Nat.add_right_comm]
      exact induction (machine.step configuration)

theorem steps_succ
    (machine : Machine) (count : Nat) (configuration : Configuration) :
    machine.steps (count + 1) configuration =
      machine.step (machine.steps count configuration) :=
  machine.steps_add count 1 configuration

/-- The configuration after so many steps on a word, whether or not a halting state is met. -/
def course (machine : Machine) (word : String) (place : Nat) : Configuration :=
  machine.steps place (machine.initial word)

@[simp]
theorem course_zero (machine : Machine) (word : String) :
    machine.course word 0 = machine.initial word :=
  rfl

theorem course_succ
    (machine : Machine) (word : String) (place : Nat) :
    machine.course word (place + 1) =
      machine.step (machine.course word place) :=
  machine.steps_succ place (machine.initial word)

/-- The place of the first configuration in a halting state, infinite if there is none. -/
noncomputable def lastPlace (machine : Machine) (word : String) : ℕ∞ :=
  ⨅ (place : Nat)
    (_ : machine.isHalting (machine.course word place).state = true),
      (place : ℕ∞)

theorem le_lastPlace_iff
    {machine : Machine} {word : String} {place : Nat} :
    (place : ℕ∞) ≤ machine.lastPlace word ↔
      ∀ earlier < place,
        machine.isHalting (machine.course word earlier).state = false := by
  rw [lastPlace, le_iInf₂_iff]
  constructor
  · intro least earlier before
    rw [Bool.eq_false_iff]
    intro halts
    have after := ENat.natCast_le_natCast.mp (least earlier halts)
    omega
  · intro goesOn later halts
    rw [ENat.natCast_le_natCast]
    by_contra before
    rw [goesOn later (Nat.lt_of_not_le before)] at halts
    cases halts

theorem succ_le_lastPlace_iff
    {machine : Machine} {word : String} {place : Nat} :
    ((place + 1 : Nat) : ℕ∞) ≤ machine.lastPlace word ↔
      (place : ℕ∞) ≤ machine.lastPlace word ∧
        machine.isHalting (machine.course word place).state = false := by
  rw [le_lastPlace_iff, le_lastPlace_iff]
  constructor
  · intro goesOn
    exact
      ⟨fun earlier before => goesOn earlier (before.trans place.lt_succ_self),
        goesOn place place.lt_succ_self⟩
  · rintro ⟨goesOn, goesOnHere⟩ earlier before
    rcases Nat.lt_succ_iff_lt_or_eq.mp before with before | rfl
    · exact goesOn earlier before
    · exact goesOnHere

/-- Of the configurations up to the last place, only the one there halts. -/
theorem isHalting_course_iff
    {machine : Machine} {word : String} {place : Nat}
    (within : (place : ℕ∞) ≤ machine.lastPlace word) :
    machine.isHalting (machine.course word place).state = true ↔
      (place : ℕ∞) = machine.lastPlace word := by
  constructor
  · intro halts
    exact le_antisymm within (iInf₂_le place halts)
  · intro isLast
    by_contra goesOn
    have further :=
      succ_le_lastPlace_iff.mpr ⟨within, Bool.eq_false_iff.mpr goesOn⟩
    rw [← isLast, ENat.natCast_le_natCast] at further
    omega

/-- The configuration at a place, if no configuration before it halts. -/
noncomputable def yielded? (machine : Machine) (word : String) (place : Nat) :
    Option Configuration :=
  if (place : ℕ∞) ≤ machine.lastPlace word then
    some (machine.course word place)
  else none

theorem yielded?_of_le
    {machine : Machine} {word : String} {place : Nat}
    (within : (place : ℕ∞) ≤ machine.lastPlace word) :
    machine.yielded? word place = some (machine.course word place) :=
  if_pos within

theorem yielded?_eq_none_iff
    {machine : Machine} {word : String} {place : Nat} :
    machine.yielded? word place = none ↔
      machine.lastPlace word < place := by
  simp [yielded?]

end Machine

namespace Run

/-- A run yields the course of its machine up to the last place. -/
theorem nth_begin_eq
    (machine : Machine) (word : String) (place : Nat) :
    ((begin machine word).nth place).1 = machine.yielded? word place := by
  induction place with
  | zero => simp [Machine.yielded?]
  | succ place induction =>
      rw [nth_begin_succ, induction]
      simp only [Machine.yielded?, Machine.succ_le_lastPlace_iff]
      by_cases within : (place : ℕ∞) ≤ machine.lastPlace word
      · cases halts : machine.isHalting (machine.course word place).state with
        | true => simp [within, Machine.successor?, halts]
        | false =>
            simp [within, Machine.successor?, halts, Machine.course_succ]
      · simp [within]

theorem nth_begin_eq_some_iff
    {machine : Machine} {word : String} {place : Nat}
    {configuration : Configuration} :
    ((begin machine word).nth place).1 = some configuration ↔
      (place : ℕ∞) ≤ machine.lastPlace word ∧
        machine.course word place = configuration := by
  rw [nth_begin_eq, Machine.yielded?]
  split
  · next within => simp [within]
  · next beyond => simp [beyond]

end Run

end TapeMachine
