import TapeMachine.Format.Expression

/-!
# The record of failed attempts

The record keeps the failures furthest on in a text and forgets the others.  So a
failure does one of three things to it: it is further on and takes the place of
all, it is as far on and joins them, or it is left out.

A part that fails looks at the failures of its own parts before it adds itself.
When these have left a single failure, at the beginning of the part or behind it,
the part adds nothing: whatever was on record before, one failure more is on
record then.
-/

namespace TapeMachine.Format

/-- A part that failed, with the number of characters that were left there. -/
structure Failure where
  part : Part
  left : Nat
  deriving DecidableEq

namespace Attempts

variable
    {attempts : Attempts}
    {failure : Failure} {failures : List Failure}
    {part : Part} {left : Nat}

/-- The record with one more failure. -/
def push (attempts : Attempts) (failure : Failure) : Attempts :=
  if failure.left < attempts.left then
    { left := failure.left, parts := [failure.part] }
  else if failure.left = attempts.left then
    { attempts with parts := attempts.parts ++ [failure.part] }
  else attempts

/-- The record with several more failures, one after the other. -/
def pushAll (attempts : Attempts) (failures : List Failure) : Attempts :=
  failures.foldl push attempts

@[simp]
theorem pushAll_nil : attempts.pushAll [] = attempts :=
  rfl

@[simp]
theorem pushAll_cons :
    attempts.pushAll (failure :: failures) =
      (attempts.push failure).pushAll failures :=
  rfl

theorem pushAll_append
    (failures failures' : List Failure) :
    attempts.pushAll (failures ++ failures') =
      (attempts.pushAll failures).pushAll failures' :=
  List.foldl_append

@[simp]
theorem left_push : (attempts.push failure).left = min attempts.left failure.left := by
  unfold push
  split
  · next further => simp only; omega
  · split
    · next same => simp only; omega
    · next before => omega

/-! ## Tracking -/

theorem countAt_of_ne
    (elsewhere : attempts.left ≠ left) :
    attempts.countAt left = 0 := by
  rw [countAt, if_neg elsewhere]

/-- A part without parts that fail is one more failure. -/
theorem track_self :
    attempts.track part left attempts = attempts.push { part, left } := by
  rw [track, if_neg (Nat.ne_of_lt (Nat.lt_succ_self _)), push]
  split
  · rfl
  · split
    · next same =>
        rw [same, countAt, if_pos rfl, List.take_length]
    · rfl

/-- A part that fails with one of its parts adds nothing. -/
theorem track_push
    (notBefore : failure.left ≤ left) :
    attempts.track part left (attempts.push failure) =
      attempts.push failure := by
  have isLeft : (attempts.push failure).left = min attempts.left failure.left :=
    left_push
  by_cases same : (attempts.push failure).left = left
  · -- The place of the record is where the part begins, so the failure was added.
    have counted :
        (attempts.push failure).countAt left = attempts.countAt left + 1 := by
      rw [countAt, if_pos same]
      by_cases further : failure.left < attempts.left
      · rw [push, if_pos further, countAt_of_ne (by omega)]
        rfl
      · rw [push, if_neg further, if_pos (by omega), countAt, if_pos (by omega)]
        simp
    rw [track, if_pos counted]
  · rw [track, if_neg (by rw [countAt_of_ne same]; omega), if_neg (by omega),
      if_neg (Ne.symm same)]

/-- Behind a failure further on a part adds nothing. -/
theorem track_of_lt
    {before : Attempts}
    (further : attempts.left < left) :
    before.track part left attempts = attempts := by
  rw [track, countAt_of_ne (Nat.ne_of_lt further), if_neg (by omega),
    if_neg (by omega), if_neg (by omega)]

/-- Several failures where a part begins are replaced by the part. -/
theorem track_initial_of_two
    {part' part'' : Part} {source : List Char}
    (member : part' ∈ attempts.parts) (member' : part'' ∈ attempts.parts)
    (distinct : part' ≠ part'') (atStart : attempts.left = source.length) :
    (initial source).track part source.length attempts =
      { left := source.length, parts := [part] } := by
  have several : attempts.parts.length ≠ 1 := by
    intro single
    rcases List.length_eq_one_iff.mp single with ⟨only, isOnly⟩
    rw [isOnly, List.mem_singleton] at member member'
    exact distinct (member.trans member'.symm)
  simp [track, initial, countAt, atStart, several]

/-! ## What is on record for a place -/

/-- The part is on record, and the record is about the place. -/
def FailsAt (attempts : Attempts) (left : Nat) (part : Part) : Prop :=
  attempts.left = left ∧ part ∈ attempts.parts

/-- The record is about no place further on, and has nothing about this one. -/
def IsFreshAt (attempts : Attempts) (left : Nat) : Prop :=
  left ≤ attempts.left ∧ ∀ part, ¬ attempts.FailsAt left part

theorem isFreshAt_initial (source : List Char) :
    (initial source).IsFreshAt source.length := by
  simp [IsFreshAt, FailsAt, initial]

theorem isFreshAt_of_lt
    (further : left < attempts.left) :
    attempts.IsFreshAt left :=
  ⟨Nat.le_of_lt further, fun _ fails => Nat.ne_of_gt further fails.1⟩

theorem IsFreshAt.of_le
    {left' : Nat}
    (fresh : attempts.IsFreshAt left) (le : left' ≤ left) :
    attempts.IsFreshAt left' := by
  rcases Nat.eq_or_lt_of_le le with rfl | lt
  · exact fresh
  · exact isFreshAt_of_lt (Nat.lt_of_lt_of_le lt fresh.1)

theorem failsAt_push_iff
    (notBehind : left ≤ attempts.left) (notFurther : left ≤ failure.left) :
    (attempts.push failure).FailsAt left part ↔
      attempts.FailsAt left part ∨ failure = { part, left } := by
  rcases failure with ⟨part', left'⟩
  simp only [FailsAt, push, Failure.mk.injEq] at notFurther ⊢
  split
  · next further =>
      have elsewhere : attempts.left ≠ left := by omega
      simp [elsewhere, and_comm, eq_comm]
  · split
    · next same =>
        simp only [List.mem_append, List.mem_singleton, ← same]
        grind
    · next before =>
        have other : left' ≠ left := by omega
        simp [other]

theorem le_left_pushAll
    (notBehind : left ≤ attempts.left)
    (notFurther : ∀ failure ∈ failures, left ≤ failure.left) :
    left ≤ (attempts.pushAll failures).left := by
  induction failures generalizing attempts with
  | nil => exact notBehind
  | cons failure failures induction =>
      rw [List.forall_mem_cons] at notFurther
      apply induction _ notFurther.2
      rw [left_push]
      exact Nat.le_min.mpr ⟨notBehind, notFurther.1⟩

/-- If nothing fails further on than a place, all that fails there is on record. -/
theorem failsAt_pushAll_iff
    (notBehind : left ≤ attempts.left)
    (notFurther : ∀ failure ∈ failures, left ≤ failure.left) :
    (attempts.pushAll failures).FailsAt left part ↔
      attempts.FailsAt left part ∨ { part, left } ∈ failures := by
  induction failures generalizing attempts with
  | nil => simp
  | cons failure failures induction =>
      rw [List.forall_mem_cons] at notFurther
      rcases notFurther with ⟨notFurther, others⟩
      have stillBehind : left ≤ (attempts.push failure).left := by
        rw [left_push]
        exact Nat.le_min.mpr ⟨notBehind, notFurther⟩
      rw [pushAll_cons, induction stillBehind others,
        failsAt_push_iff notBehind notFurther, List.mem_cons, or_assoc, eq_comm]

end Attempts

/-! ## What a series of failures leaves -/

/-- None of the failures is further on than a place, and these are the parts that fail there. -/
structure LeadTo (failures : List Failure) (left : Nat) (parts : List Part) : Prop where
  notFurther : ∀ failure ∈ failures, left ≤ failure.left
  names : ∀ part, { part, left } ∈ failures ↔ part ∈ parts

theorem LeadTo.append_of_subset
    {failures failures' : List Failure} {left : Nat} {parts : List Part}
    (leads : LeadTo failures left parts) (subset : failures' ⊆ failures) :
    LeadTo (failures' ++ failures) left parts where
  notFurther := by
    intro failure member
    rcases List.mem_append.mp member with early | late
    · exact leads.notFurther failure (subset early)
    · exact leads.notFurther failure late
  names := by
    intro part
    rw [← leads.names, List.mem_append]
    exact ⟨fun member => member.elim (subset ·) id, Or.inr⟩

/-- On a record that has nothing about their place the failures alone are kept. -/
theorem LeadTo.pushAll
    {failures : List Failure} {left : Nat} {parts : List Part} {attempts : Attempts}
    (leads : LeadTo failures left parts) (nonempty : parts ≠ [])
    (fresh : attempts.IsFreshAt left) :
    (attempts.pushAll failures).left = left ∧
      ∀ part, part ∈ (attempts.pushAll failures).parts ↔ part ∈ parts := by
  have failing (part : Part) :
      (attempts.pushAll failures).FailsAt left part ↔ part ∈ parts := by
    rw [Attempts.failsAt_pushAll_iff fresh.1 leads.notFurther, leads.names]
    exact or_iff_right (fresh.2 part)
  rcases List.exists_mem_of_ne_nil parts nonempty with ⟨part, member⟩
  have isLeft := ((failing part).mpr member).1
  exact ⟨isLeft, fun part => by rw [← failing, Attempts.FailsAt, isLeft]; simp⟩

end TapeMachine.Format
