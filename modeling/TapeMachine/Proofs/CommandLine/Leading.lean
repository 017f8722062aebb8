import TapeMachine.CommandLine.Arguments
import TapeMachine.Proofs.Success

/-!
# An argument in front of others

An argument that none of the others repeats can be put in front of them, and
then all that the others ask for is asked for, and what the argument asks for.
Reading goes on from other arguments than none, and every step of it does
the same from there, since no step looks at what is already there except to
refuse a second value.
-/

namespace TapeMachine.CommandLine

/-! ## Steps that do the same after a change -/

/--
A step does the same after a change, if it leaves what is changed free.  What is
free after the step was so before it.
-/
def CommutesWith
    {State : Type}
    (change : State → State)
    (IsFree : State → Prop)
    (step : State → Except Stop State) : Prop :=
  ∀ ⦃before after : State⦄, step before = .ok after → IsFree after →
    IsFree before ∧ step (change before) = .ok (change after)

theorem CommutesWith.bind
    {State : Type}
    {change : State → State}
    {IsFree : State → Prop}
    {first second : State → Except Stop State}
    (commutesFirst : CommutesWith change IsFree first)
    (commutesSecond : CommutesWith change IsFree second) :
    CommutesWith change IsFree fun state => first state >>= second := by
  intro before after made free
  rcases bind_eq_ok_iff.mp made with ⟨between, madeFirst, madeSecond⟩
  rcases commutesSecond madeSecond free with ⟨freeBetween, changedSecond⟩
  rcases commutesFirst madeFirst freeBetween with ⟨freeBefore, changedFirst⟩
  exact ⟨freeBefore, bind_eq_ok_iff.mpr ⟨_, changedFirst, changedSecond⟩⟩

/-- A change of the arguments makes no difference to reading what leaves the changed part free. -/
structure Presets
    (change : Arguments → Arguments)
    (IsFree : Arguments → Prop) : Prop where
  takeValue : ∀ (flag : Flag) (value : String),
    CommutesWith change IsFree (·.takeValue flag value)
  takeSwitch : ∀ flag : Flag,
    CommutesWith change IsFree (·.takeSwitch flag)
  takeWord : ∀ word : String,
    CommutesWith change IsFree fun arguments => .ok { arguments with input? := some word }
  /-- Where a word can be taken, the change is not one of the word taken. -/
  input? : ∀ {arguments : Arguments} {word : String},
    IsFree { arguments with input? := some word } →
      ∀ other : Arguments, (change other).input? = other.input?
  /-- There is as much to run as before. -/
  run : ∀ arguments : Arguments,
    (change arguments).machine? = arguments.machine? ∧
      (change arguments).program? = arguments.program? ∧
        (change arguments).list = arguments.list

/-- Whether arguments can be run depends on what there is to run, and nothing is changed by it. -/
theorem Arguments.check_of_check
    {arguments other taken : Arguments}
    (checked : arguments.check = .ok taken)
    (sameMachine : other.machine? = arguments.machine?)
    (sameProgram : other.program? = arguments.program?)
    (sameList : other.list = arguments.list) :
    taken = arguments ∧ other.check = .ok other := by
  unfold Arguments.check at checked ⊢
  rw [sameMachine, sameProgram, sameList]
  split at checked
  · cases checked
  · split at checked
    · next lists =>
        cases checked
        exact ⟨rfl, if_pos lists⟩
    · cases checked
  · cases checked
    exact ⟨rfl, rfl⟩

/-! ## Reading behind a change -/

/-- The progress with changed arguments. -/
def Progress.change (change : Arguments → Arguments) (progress : Progress) : Progress :=
  { progress with arguments := change progress.arguments }

namespace Presets

variable
    {change : Arguments → Arguments}
    {IsFree : Arguments → Prop}

theorem check (presets : Presets change IsFree) :
    CommutesWith change IsFree Arguments.check := by
  intro arguments taken checked free
  rcases presets.run arguments with ⟨sameMachine, sameProgram, sameList⟩
  rcases Arguments.check_of_check checked sameMachine sameProgram sameList with
    ⟨rfl, checkedChanged⟩
  exact ⟨free, checkedChanged⟩

theorem settle (presets : Presets change IsFree) :
    CommutesWith (Progress.change change) (IsFree ∘ Progress.arguments) Progress.settle := by
  rintro ⟨arguments, pending, onlyWords⟩ further settled free
  cases pending with
  | nothing =>
      cases settled
      exact ⟨free, rfl⟩
  | named flag => cases settled
  | valued flag value =>
      rcases map_eq_ok_iff.mp settled with ⟨taken, took, rfl⟩
      rcases presets.takeValue flag value took free with ⟨wasFree, tookChanged⟩
      exact ⟨wasFree, map_eq_ok_iff.mpr ⟨_, tookChanged, rfl⟩⟩

theorem complete
    (presets : Presets change IsFree)
    {take : Arguments → Except Stop Arguments}
    (commutes : CommutesWith change IsFree take) :
    CommutesWith (Progress.change change) (IsFree ∘ Progress.arguments)
      (·.complete take) := by
  refine presets.settle.bind fun settled further completed free => ?_
  rcases bind_eq_ok_iff.mp completed with ⟨taken, took, made⟩
  cases made
  rcases commutes took free with ⟨wasFree, tookChanged⟩
  exact ⟨wasFree, bind_eq_ok_iff.mpr ⟨_, tookChanged, rfl⟩⟩

theorem await (presets : Presets change IsFree) (flag : Flag) :
    CommutesWith (Progress.change change) (IsFree ∘ Progress.arguments) (·.await flag) := by
  refine presets.settle.bind fun settled further awaits free => ?_
  cases awaits
  exact ⟨free, rfl⟩

theorem takeNextWord (presets : Presets change IsFree) (word : String) :
    CommutesWith (Progress.change change) (IsFree ∘ Progress.arguments)
      (·.takeWord word) := by
  intro progress further took free
  simp only [Progress.takeWord] at took ⊢
  split at took
  · cases took
  · next untaken =>
      rcases bind_eq_ok_iff.mp took with ⟨settled, -, made⟩
      cases made
      have stillUntaken : (progress.change change).arguments.input? = none :=
        (presets.input? free progress.arguments).trans untaken
      rw [stillUntaken]
      exact presets.complete (presets.takeWord word) took free

theorem takeLong (presets : Presets change IsFree) (text : List Char) :
    CommutesWith (Progress.change change) (IsFree ∘ Progress.arguments)
      (·.takeLong text) := by
  intro progress further took free
  simp only [Progress.takeLong] at took ⊢
  split at took
  · cases took
  · split at took
    · next takesValue =>
        rw [if_pos takesValue]
        exact presets.complete (presets.takeValue _ _) took free
    · cases took
  · split at took
    · next takesValue =>
        rw [if_pos takesValue]
        exact presets.await _ took free
    · next takesNone =>
        rw [if_neg takesNone]
        exact presets.complete (presets.takeSwitch _) took free

theorem takeLetters (presets : Presets change IsFree) (letters : List Char) :
    CommutesWith (Progress.change change) (IsFree ∘ Progress.arguments)
      (·.takeLetters letters) := by
  induction letters with
  | nil =>
      intro progress further took free
      cases took
      exact ⟨free, rfl⟩
  | cons letter rest induction =>
      intro progress further took free
      simp only [Progress.takeLetters] at took ⊢
      split at took
      · cases took
      · split at took
        · next takesValue =>
            rw [if_pos takesValue]
            split at took
            · exact presets.await _ took free
            · exact presets.complete (presets.takeValue _ _) took free
            · exact presets.complete (presets.takeValue _ _) took free
        · next takesNone =>
            rw [if_neg takesNone]
            exact (presets.complete (presets.takeSwitch _)).bind induction took free

theorem take (presets : Presets change IsFree) (argument : String) :
    CommutesWith (Progress.change change) (IsFree ∘ Progress.arguments)
      (·.take argument) := by
  intro progress further took free
  have sameMode : (progress.change change).onlyWords = progress.onlyWords := rfl
  have samePending : (progress.change change).pending = progress.pending := rfl
  simp only [Progress.take] at took ⊢
  rw [sameMode, samePending]
  split at took
  · next onlyWords =>
      rw [if_pos onlyWords]
      exact presets.takeNextWord _ took free
  · next options =>
      rw [if_neg options]
      split at took
      · cases took
        exact ⟨free, rfl⟩
      · exact presets.takeLong _ took free
      · exact presets.takeLetters _ took free
      · split at took
        · cases took
          exact ⟨free, rfl⟩
        · exact presets.takeNextWord _ took free

theorem foldlM (presets : Presets change IsFree) (arguments : List String) :
    CommutesWith (Progress.change change) (IsFree ∘ Progress.arguments)
      (arguments.foldlM Progress.take) := by
  induction arguments with
  | nil =>
      intro progress further took free
      cases took
      exact ⟨free, rfl⟩
  | cons argument arguments induction =>
      intro progress further took free
      simp only [List.foldlM_cons] at took ⊢
      exact (presets.take argument).bind induction took free

/-- An argument that makes a change of no arguments makes it of all that come behind it. -/
theorem read_cons
    (presets : Presets change IsFree)
    {first : String}
    {arguments : List String}
    {asked : Arguments}
    (taken : Progress.take {} first = .ok { arguments := change {} })
    (understood : Arguments.read arguments = .ok asked)
    (free : IsFree asked) :
    Arguments.read (first :: arguments) = .ok (change asked) := by
  rcases bind_eq_ok_iff.mp understood with ⟨progress, took, rest⟩
  rcases bind_eq_ok_iff.mp rest with ⟨settled, isSettled, checked⟩
  rcases presets.check checked free with ⟨freeSettled, checkedChanged⟩
  rcases (presets.foldlM arguments).bind presets.settle
    (bind_eq_ok_iff.mpr ⟨_, took, isSettled⟩) freeSettled with ⟨-, settledChanged⟩
  rcases bind_eq_ok_iff.mp settledChanged with ⟨_, tookChanged, isSettledChanged⟩
  rw [Arguments.read, List.foldlM_cons, taken]
  exact
    bind_eq_ok_iff.mpr
      ⟨_, tookChanged, bind_eq_ok_iff.mpr ⟨_, isSettledChanged, checkedChanged⟩⟩

end Presets

/-! ## Three arguments in front of others -/

theorem presets_auto :
    Presets (fun arguments => { arguments with auto := true })
      (fun arguments => arguments.auto = false) where
  takeValue := by
    intro flag value arguments taken took free
    cases flag with
    | machine | program | word | delay | maxSteps =>
        rcases map_eq_ok_iff.mp took with ⟨put, isPut, rfl⟩
        exact ⟨free, map_eq_ok_iff.mpr ⟨put, isPut, rfl⟩⟩
    | auto | list | help | version => cases took
  takeSwitch := by
    intro flag arguments taken took free
    cases flag with
    | auto =>
        simp only [Arguments.takeSwitch] at took
        split at took
        · cases took
        · cases took
          cases free
    | list =>
        simp only [Arguments.takeSwitch] at took ⊢
        split at took
        · cases took
        · next unlisted =>
            cases took
            exact ⟨free, if_neg unlisted⟩
    | machine | program | word | delay | maxSteps | help | version => cases took
  takeWord := by
    rintro word arguments _ ⟨⟩ free
    exact ⟨free, rfl⟩
  input? := fun _ _ => rfl
  run := fun _ => ⟨rfl, rfl, rfl⟩

namespace Arguments

variable
    {arguments : List String}
    {asked : Arguments}

/-- A run can be asked to go on by itself in front of everything else. -/
theorem read_auto_cons
    (understood : read arguments = .ok asked)
    (prompted : asked.auto = false) :
    read ("--auto" :: arguments) = .ok { asked with auto := true } :=
  presets_auto.read_cons rfl understood prompted

end Arguments

end TapeMachine.CommandLine
