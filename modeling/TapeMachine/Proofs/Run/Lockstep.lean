import TapeMachine.Proofs.Run.Course

/-!
# Runs in lockstep

Two machines run in lockstep under a relation of configurations when related
configurations halt together and otherwise step to related ones.  Runs that
begin in related configurations then yield related ones at every place, and they
end at the same place or not at all.

What every step of a single machine keeps is known of every configuration on its
course in the same way.
-/

namespace TapeMachine

namespace Machine

/-- Related configurations halt together, and otherwise step to related ones. -/
def InLockstep
    (left right : Machine)
    (related : Configuration → Configuration → Prop) : Prop :=
  ∀ before before', related before before' →
    Option.Rel related (left.successor? before) (right.successor? before')

/-- Lockstep is shown step by step: related configurations agree in whether they halt. -/
theorem inLockstep_of_step
    {left right : Machine}
    {related : Configuration → Configuration → Prop}
    (haltTogether : ∀ before before', related before before' →
      left.isHalting before.state = right.isHalting before'.state)
    (stepTogether : ∀ before before', related before before' →
      left.isHalting before.state = false →
        related (left.step before) (right.step before')) :
    left.InLockstep right related := by
  intro before before' areRelated
  have sameHalting := haltTogether before before' areRelated
  cases halts : left.isHalting before.state with
  | true =>
      rw [successor?, successor?, ← sameHalting, halts]
      exact .none
  | false =>
      rw [successor?, successor?, ← sameHalting, halts]
      exact .some (stepTogether before before' areRelated halts)

/-- What the first configuration has and every step keeps, the whole course has. -/
theorem course_of_step
    {machine : Machine} {word : String}
    {property : Configuration → Prop}
    (begins : property (machine.initial word))
    (kept : ∀ before, property before → property (machine.step before))
    (place : Nat) :
    property (machine.course word place) := by
  induction place with
  | zero => exact begins
  | succ place induction =>
      rw [course_succ]
      exact kept _ induction

end Machine

namespace Run

section Lockstep

variable
    {left right : Machine}
    {word word' : String}
    {related : Configuration → Configuration → Prop}

/-- Runs in lockstep yield related configurations at every place, and end together. -/
theorem nth_begin_rel
    (lockstep : left.InLockstep right related)
    (begins : related (left.initial word) (right.initial word'))
    (place : Nat) :
    Option.Rel related
      ((begin left word).nth place).1 ((begin right word').nth place).1 := by
  induction place with
  | zero =>
      rw [nth_begin_zero, nth_begin_zero]
      exact .some begins
  | succ place induction =>
      rw [nth_begin_succ, nth_begin_succ]
      generalize ((begin left word).nth place).1 = yielded at induction ⊢
      generalize ((begin right word').nth place).1 = yielded' at induction ⊢
      cases induction with
      | none => exact .none
      | some areRelated => exact lockstep _ _ areRelated

theorem lastPlace_eq_of_inLockstep
    (lockstep : left.InLockstep right related)
    (begins : related (left.initial word) (right.initial word')) :
    left.lastPlace word = right.lastPlace word' := by
  apply ENat.eq_of_forall_natCast_le_iff
  intro place
  have yields := nth_begin_rel lockstep begins place
  rw [nth_begin_eq, nth_begin_eq] at yields
  rw [← not_lt, ← not_lt, ← Machine.yielded?_eq_none_iff,
    ← Machine.yielded?_eq_none_iff]
  generalize left.yielded? word place = yielded at yields ⊢
  generalize right.yielded? word' place = yielded' at yields ⊢
  cases yields with
  | none => rfl
  | some _ => simp

end Lockstep

end Run

end TapeMachine
