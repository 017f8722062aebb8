import TapeMachine.CommandLine.Execution
import TapeMachine.Proofs.Number.Decimal
import TapeMachine.Proofs.Success

/-!
# Delays as they are written

A delay is taken from the end of some argument and rounded to binary64, and what
was taken once is not changed any more.  So the delay that the arguments ask for
is a number in one of them, or the default.

A pause of 2^64 seconds cannot be made.  Rounding reaches this number from 2^10
below it on, and so does a delay.
-/

namespace TapeMachine.CommandLine

/-! ## Which delays cannot be made -/

theorem isEndless_iff (delay : Binary64) :
    isEndless delay = true ↔ (2 : ℚ) ^ 64 ≤ delay.value := by
  have positive : (0 : ℚ) < delay.ratio.2 := by
    exact_mod_cast Binary64.scaled_pos Nat.one_pos delay.exponent
  rw [isEndless, decide_eq_true_iff, Nat.pow_eq, ← delay.ratio_div,
    le_div_iff₀ positive]
  exact_mod_cast Iff.rfl

theorem readDelay_eq_ok_iff
    {text : List Char} {delay : Binary64} :
    readDelay text = .ok delay ↔
      ∃ (negative : Bool) (decimal : Decimal),
        readReal? text = some (.finite negative decimal) ∧
          decimal.toBinary64? = some delay ∧
            (negative = true → delay.isZero = true) := by
  constructor
  · intro read
    unfold readDelay at read
    split at read
    · cases read
    · split at read
      · cases read
      · cases read
      · next negative decimal written =>
          split at read
          · cases read
          · next seconds rounded =>
              split at read
              · cases read
              · next accepted =>
                  cases read
                  exact
                    ⟨negative, decimal, written, rounded,
                      by simpa using accepted⟩
  · rintro ⟨negative, decimal, written, rounded, nonnegative⟩
    have nonempty : text.isEmpty = false := by
      cases text with
      | nil => cases written
      | cons c text => rfl
    have accepted : (negative && !delay.isZero) = false := by
      simpa using nonnegative
    simp only [readDelay, nonempty, written, rounded, accepted,
      Bool.false_eq_true, if_false]

/-- Whether a text is a number that is at least 2^64 when it is rounded. -/
def WritesOverlong (text : List Char) : Prop :=
  ∃ decimal : Decimal,
    readReal? text = some (.finite false decimal) ∧
      (2 : ℚ) ^ 64 - 2 ^ 10 ≤ decimal.value

/-- A pause for an accepted delay can be made unless at least 2^64 - 2^10 seconds are written. -/
theorem isEndless_iff_of_readDelay
    {text : List Char} {delay : Binary64}
    (read : readDelay text = .ok delay) :
    isEndless delay = true ↔ WritesOverlong text := by
  rcases readDelay_eq_ok_iff.mp read with
    ⟨negative, decimal, written, rounded, nonnegative⟩
  have reached :
      (2 : ℚ) ^ 64 ≤ delay.value ↔ (2 : ℚ) ^ 64 - 2 ^ 10 ≤ decimal.value :=
    Decimal.two_zpow_le_value_iff rounded (by decide : (-1021 : Int) ≤ 64)
  rw [isEndless_iff]
  constructor
  · intro endless
    have positive : negative = false := by
      by_contra negated
      have isZero := nonnegative (Bool.eq_true_of_not_eq_false negated)
      rw [Binary64.value_of_isZero isZero] at endless
      norm_num at endless
    exact ⟨decimal, positive ▸ written, reached.mp endless⟩
  · rintro ⟨decimal', written', overlong⟩
    rw [written'] at written
    cases written
    exact reached.mpr overlong

/-! ## Where a delay comes from -/

/-- The delay is read from the end of one of some arguments. -/
def IsWrittenIn (given : List String) (delay : Binary64) : Prop :=
  ∃ argument ∈ given, ∃ value : List Char,
    value <:+ argument.toList ∧ readDelay value = .ok delay

/-- What was taken so far asks for no delay that is not written in the arguments. -/
def Arguments.DelayIsWritten (taken : Arguments) (given : List String) : Prop :=
  ∀ delay, taken.delay? = some delay → IsWrittenIn given delay

namespace Arguments

variable
    {given : List String}
    {arguments taken : Arguments}

theorem DelayIsWritten.takeValue
    (isWritten : arguments.DelayIsWritten given)
    {flag : Flag} {argument value : String}
    (member : argument ∈ given) (atEnd : value.toList <:+ argument.toList)
    (took : arguments.takeValue flag value = .ok taken) :
    taken.DelayIsWritten given := by
  cases flag with
  | machine | program | word | maxSteps =>
      rcases map_eq_ok_iff.mp took with ⟨_, -, rfl⟩
      exact isWritten
  | auto | list | help | version => cases took
  | delay =>
      rcases map_eq_ok_iff.mp took with ⟨delay?, put, rfl⟩
      unfold readOnce at put
      split at put
      · cases put
      · split at put
        · next delay read =>
            cases put
            intro delay' isDelay
            cases isDelay
            exact ⟨argument, member, value.toList, atEnd, read⟩
        · cases put

theorem DelayIsWritten.takeSwitch
    (isWritten : arguments.DelayIsWritten given)
    {flag : Flag}
    (took : arguments.takeSwitch flag = .ok taken) :
    taken.DelayIsWritten given := by
  cases flag with
  | machine | program | word | delay | maxSteps | help | version => cases took
  | auto | list =>
      simp only [Arguments.takeSwitch] at took
      split at took
      · cases took
      · cases took
        exact isWritten

end Arguments

namespace Progress

/--
What every argument keeps: the delay taken is written, and the value of an
option that is not complete is an argument.
-/
structure DelayIsWritten (progress : Progress) (given : List String) : Prop where
  taken : progress.arguments.DelayIsWritten given
  pending : ∀ flag value, progress.pending = .valued flag value → value ∈ given

variable
    {given : List String}
    {progress further : Progress}

theorem DelayIsWritten.settle
    (isWritten : progress.DelayIsWritten given)
    (settled : progress.settle = .ok further) :
    further.DelayIsWritten given := by
  unfold Progress.settle at settled
  split at settled
  · cases settled
    exact isWritten
  · cases settled
  · next flag value isPending =>
      rcases map_eq_ok_iff.mp settled with ⟨taken, took, rfl⟩
      exact
        { taken :=
            isWritten.taken.takeValue (isWritten.pending flag value isPending)
              List.suffix_rfl took
          pending := by simp }

theorem DelayIsWritten.complete
    (isWritten : progress.DelayIsWritten given)
    {take : Arguments → Except Stop Arguments}
    (keeps : ∀ arguments taken, take arguments = .ok taken →
      arguments.DelayIsWritten given → taken.DelayIsWritten given)
    (completed : progress.complete take = .ok further) :
    further.DelayIsWritten given := by
  rcases bind_eq_ok_iff.mp completed with ⟨settled, isSettled, rest⟩
  rcases bind_eq_ok_iff.mp rest with ⟨taken, took, made⟩
  cases made
  have settledWritten := isWritten.settle isSettled
  exact
    { taken := keeps _ _ took settledWritten.taken
      pending := settledWritten.pending }

theorem DelayIsWritten.await
    (isWritten : progress.DelayIsWritten given)
    {flag : Flag} (awaits : progress.await flag = .ok further) :
    further.DelayIsWritten given := by
  rcases bind_eq_ok_iff.mp awaits with ⟨settled, isSettled, made⟩
  cases made
  exact { taken := (isWritten.settle isSettled).taken, pending := by simp }

theorem DelayIsWritten.takeWord
    (isWritten : progress.DelayIsWritten given)
    {word : String} (took : progress.takeWord word = .ok further) :
    further.DelayIsWritten given := by
  unfold Progress.takeWord at took
  split at took
  · cases took
  · apply isWritten.complete _ took
    rintro arguments taken put isWritten
    cases put
    exact isWritten

theorem DelayIsWritten.completeValue
    (isWritten : progress.DelayIsWritten given)
    {flag : Flag} {argument : String} {value : List Char}
    (member : argument ∈ given) (atEnd : value <:+ argument.toList)
    (completed :
      progress.complete (·.takeValue flag (String.ofList value)) =
        .ok further) :
    further.DelayIsWritten given := by
  apply isWritten.complete _ completed
  intro arguments taken took isWritten
  exact isWritten.takeValue member (by rwa [String.toList_ofList]) took

theorem DelayIsWritten.completeSwitch
    (isWritten : progress.DelayIsWritten given)
    {flag : Flag}
    (completed : progress.complete (·.takeSwitch flag) = .ok further) :
    further.DelayIsWritten given := by
  apply isWritten.complete _ completed
  intro arguments taken took isWritten
  exact isWritten.takeSwitch took

theorem DelayIsWritten.takeLong
    (isWritten : progress.DelayIsWritten given)
    {argument : String} {text : List Char}
    (member : argument ∈ given) (atEnd : text <:+ argument.toList)
    (took : progress.takeLong text = .ok further) :
    further.DelayIsWritten given := by
  have scanned := List.dropWhile_suffix (l := text) (· != '=')
  simp only [Progress.takeLong] at took
  generalize text.dropWhile (· != '=') = rest at scanned took
  cases rest with
  | nil =>
      dsimp only at took
      split at took
      · cases took
      · contradiction
      · split at took
        · exact isWritten.await took
        · exact isWritten.completeSwitch took
  | cons separator value =>
      have atEndValue : value <:+ argument.toList :=
        ((List.suffix_cons separator value).trans scanned).trans atEnd
      dsimp only at took
      split at took
      · cases took
      · next isValue =>
          cases isValue
          split at took
          · exact isWritten.completeValue member atEndValue took
          · cases took
      · contradiction

theorem DelayIsWritten.takeLetters
    (isWritten : progress.DelayIsWritten given)
    {argument : String} {letters : List Char}
    (member : argument ∈ given) (atEnd : letters <:+ argument.toList)
    (took : progress.takeLetters letters = .ok further) :
    further.DelayIsWritten given := by
  induction letters generalizing progress with
  | nil =>
      cases took
      exact isWritten
  | cons letter rest induction =>
      have atEndRest : rest <:+ argument.toList :=
        (List.suffix_cons letter rest).trans atEnd
      unfold Progress.takeLetters at took
      split at took
      · cases took
      · split at took
        · split at took
          · exact isWritten.await took
          · next value =>
              exact
                isWritten.completeValue member
                  ((List.suffix_cons '=' value).trans atEndRest) took
          · exact isWritten.completeValue member atEndRest took
        · rcases bind_eq_ok_iff.mp took with ⟨next, completed, tookRest⟩
          exact
            induction (isWritten.completeSwitch completed) atEndRest tookRest

theorem DelayIsWritten.take
    (isWritten : progress.DelayIsWritten given)
    {argument : String} (member : argument ∈ given)
    (took : progress.take argument = .ok further) :
    further.DelayIsWritten given := by
  unfold Progress.take at took
  split at took
  · exact isWritten.takeWord took
  · split at took
    · cases took
      exact { taken := isWritten.taken, pending := isWritten.pending }
    · next text isLong =>
        apply isWritten.takeLong member _ took
        rw [isLong]
        exact (List.suffix_cons _ _).trans (List.suffix_cons _ _)
    · next letter rest _ isShort =>
        apply isWritten.takeLetters member _ took
        rw [isShort]
        exact List.suffix_cons _ _
    · split at took
      · cases took
        refine { taken := isWritten.taken, pending := ?_ }
        intro flag value isPending
        cases isPending
        exact member
      · exact isWritten.takeWord took

theorem DelayIsWritten.foldlM
    (isWritten : progress.DelayIsWritten given)
    {arguments : List String} (within : arguments ⊆ given)
    (took : arguments.foldlM Progress.take progress = .ok further) :
    further.DelayIsWritten given := by
  induction arguments generalizing progress with
  | nil =>
      cases took
      exact isWritten
  | cons argument arguments induction =>
      rw [List.foldlM_cons] at took
      rcases bind_eq_ok_iff.mp took with ⟨next, tookFirst, tookOthers⟩
      rw [List.cons_subset] at within
      exact induction (isWritten.take within.1 tookFirst) within.2 tookOthers

end Progress

namespace Arguments

theorem eq_of_check
    {arguments asked : Arguments} (checked : arguments.check = .ok asked) :
    asked = arguments := by
  unfold check at checked
  split at checked
  · cases checked
  · split at checked
    · cases checked
      rfl
    · cases checked
  · cases checked
    rfl

theorem delayIsWritten_of_read
    {arguments : List String} {asked : Arguments}
    (understood : Arguments.read arguments = .ok asked) :
    asked.DelayIsWritten arguments := by
  rcases bind_eq_ok_iff.mp understood with ⟨progress, folded, rest⟩
  rcases bind_eq_ok_iff.mp rest with ⟨settled, isSettled, checked⟩
  have nothingTaken : Progress.DelayIsWritten {} arguments :=
    { taken := by simp [DelayIsWritten], pending := by simp }
  have isWritten :=
    (nothingTaken.foldlM (List.Subset.refl arguments) folded).settle isSettled
  rw [eq_of_check checked]
  exact isWritten.taken

/-- Only a number that is written in the arguments can be too long for a pause. -/
theorem isEndless_iff_of_read
    {arguments : List String} {asked : Arguments}
    (understood : Arguments.read arguments = .ok asked) :
    isEndless asked.delay = true ↔
      ∃ argument ∈ arguments, ∃ value : List Char,
        value <:+ argument.toList ∧
          readDelay value = .ok asked.delay ∧ WritesOverlong value := by
  constructor
  · intro endless
    cases chosen : asked.delay? with
    | none =>
        have isDefault : asked.delay = defaultDelay := by
          simp [delay, chosen]
        rw [isDefault] at endless
        exact absurd endless (by decide)
    | some delay =>
        have isDelay : asked.delay = delay := by
          simp [Arguments.delay, chosen]
        rcases delayIsWritten_of_read understood delay chosen with
          ⟨argument, member, value, atEnd, read⟩
        rw [isDelay] at endless ⊢
        exact
          ⟨argument, member, value, atEnd, read,
            (isEndless_iff_of_readDelay read).mp endless⟩
  · rintro ⟨argument, member, value, atEnd, read, overlong⟩
    exact (isEndless_iff_of_readDelay read).mpr overlong

end Arguments

end TapeMachine.CommandLine
