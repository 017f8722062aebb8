import Mathlib.Data.List.Nodup
import TapeMachine.Proofs.Building
import TapeMachine.Proofs.Run.Sequence
import TapeMachine.Proofs.Tape.Refinement
import TapeMachine.Textbook

/-!
# A machine runs as the textbook says

A machine works on a stored tape and finds its rules in a table in which the
symbol for the blank was replaced.  The textbook machine works on an infinite
tape, and any transition of the description that fits may be applied.

A configuration simulates a textbook one when the states are the same and the
stored tape represents the infinite one.  The first configurations of the two
runs are related in this way and steps preserve it; since a machine exists only
for a description without repeated situations, at most one transition fits, and
the textbook run is as determined as the other.
-/

namespace TapeMachine

/-- The states are the same, and the stored tape represents the infinite one. -/
structure Configuration.Simulates
    (configuration : Configuration)
    (textbook : Textbook.Configuration) : Prop where
  state : configuration.state = textbook.state
  tape : configuration.tape.Represents textbook.tape

namespace Textbook

variable
    {description : Description}
    {machine : Machine}

/-! ## Transitions that fit are rules -/

theorem Fits.rule?_eq
    {textbook : Configuration} {transition : Transition}
    (built : description.build = .ok machine)
    (fits : Fits description textbook transition) :
    machine.rule? textbook.state textbook.tape.read =
      some (transition.mapSymbols description.internal) := by
  rcases Description.build_eq_ok_iff.1 built with ⟨-, -, -, -, isRules⟩
  rcases fits with ⟨member, sameState, sameSymbol⟩
  rw [Machine.rule?_eq_some_iff, isRules, ← sameState, ← sameSymbol]
  exact ⟨List.mem_map_of_mem member, rfl⟩

theorem rule?_eq_none
    {textbook : Configuration}
    (built : description.build = .ok machine)
    (noneFits : ∀ transition, ¬ Fits description textbook transition) :
    machine.rule? textbook.state textbook.tape.read = none := by
  rcases Description.build_eq_ok_iff.1 built with ⟨-, -, -, -, isRules⟩
  rw [Machine.rule?_eq_none_iff, isRules]
  intro rule member sameKey
  rcases List.mem_map.1 member with ⟨transition, inDescription, rfl⟩
  rcases Prod.mk.inj sameKey with ⟨sameState, sameSymbol⟩
  exact noneFits transition ⟨inDescription, sameState, sameSymbol⟩

/-! ## The textbook run is determined -/

/-- At most one transition fits, because no two rules of the machine share a situation. -/
theorem Fits.unique
    {textbook : Configuration} {first second : Transition}
    (built : description.build = .ok machine)
    (fits : Fits description textbook first)
    (fits' : Fits description textbook second) :
    first = second := by
  rcases Description.build_eq_ok_iff.1 built with ⟨-, -, -, -, isRules⟩
  have distinct := machine.deterministic
  rw [isRules, Description.rules, List.map_map] at distinct
  apply List.inj_on_of_nodup_map distinct fits.1 fits'.1
  exact
    Prod.ext (fits.2.1.trans fits'.2.1.symm)
      (fits.2.2.trans fits'.2.2.symm)

theorem Step.unique
    {before after after' : Configuration}
    (built : description.build = .ok machine)
    (step : Step description before after)
    (step' : Step description before after') :
    after = after' := by
  cases step with
  | move fits =>
      cases step' with
      | move fits' =>
          rw [fits.unique built fits']
      | stuck noneFits =>
          exact (noneFits _ fits).elim
  | stuck noneFits =>
      cases step' with
      | move fits' =>
          exact (noneFits _ fits').elim
      | stuck _ =>
          rfl

theorem Step.exists
    (description : Description) (before : Configuration) :
    ∃ after, Step description before after := by
  by_cases someFits : ∃ transition, Fits description before transition
  · rcases someFits with ⟨transition, fits⟩
    exact ⟨_, Step.move fits⟩
  · exact ⟨_, Step.stuck (not_exists.mp someFits)⟩

theorem Reaches.unique
    {word : String} {index : Nat} {first second : Configuration}
    (built : description.build = .ok machine)
    (reached : Reaches description word index first)
    (reached' : Reaches description word index second) :
    first = second := by
  induction reached generalizing second with
  | start =>
      cases reached'
      rfl
  | next _ _ step induction =>
      cases reached' with
      | next before' _ step' =>
          cases induction before'
          exact step.unique built step'

/-! ## The two runs -/

theorem halting_iff
    (built : description.build = .ok machine) (state : String) :
    machine.isHalting state = true ↔ Halting description state := by
  rcases Description.build_eq_ok_iff.1 built with
    ⟨-, isAccept, isReject, -, -⟩
  rw [Machine.isHalting_iff, isAccept, isReject]
  rfl

theorem initial_simulates
    (built : description.build = .ok machine) (word : String) :
    (machine.initial word).Simulates (initial description word) := by
  rcases Description.build_eq_ok_iff.1 built with ⟨isStart, -, -, isBlank, -⟩
  refine ⟨isStart, ?_⟩
  have symbols :
      machine.wordSymbols word = word.toList.map description.internal := by
    simp only [Machine.wordSymbols, isBlank]
    rfl
  simp only [Machine.initial, symbols]
  exact Tape.Represents.ofSymbols _

/-- One step of the machine is the step of the textbook. -/
theorem step_simulates
    {configuration : TapeMachine.Configuration}
    {before after : Configuration}
    (built : description.build = .ok machine)
    (simulates : configuration.Simulates before)
    (step : Step description before after) :
    (machine.step configuration).Simulates after := by
  rcases configuration with ⟨state, tape⟩
  rcases simulates with ⟨sameState, represents⟩
  simp only at sameState represents
  simp only [Machine.step, sameState, represents.read]
  cases step with
  | move fits =>
      rw [fits.rule?_eq built]
      exact ⟨rfl, represents.apply _ _⟩
  | stuck noneFits =>
      rcases Description.build_eq_ok_iff.1 built with ⟨-, -, isReject, -, -⟩
      rw [rule?_eq_none built noneFits]
      exact ⟨isReject, represents⟩

/-- Every configuration of the textbook run is simulated by the one at its place. -/
theorem Reaches.exists_nth
    {word : String} {index : Nat} {textbook : Configuration}
    (built : description.build = .ok machine)
    (reached : Reaches description word index textbook) :
    ∃ configuration,
      ((Run.begin machine word).nth index).1 = some configuration ∧
        configuration.Simulates textbook := by
  induction reached with
  | start =>
      exact
        ⟨_, Run.nth_begin_zero machine word, initial_simulates built word⟩
  | next _ goesOn step induction =>
      rcases induction with ⟨configuration, yielded, simulates⟩
      refine ⟨machine.step configuration, ?_, step_simulates built simulates step⟩
      rw [← simulates.state, ← halting_iff built] at goesOn
      rw [Run.nth_begin_succ, yielded, Option.bind_some,
        Machine.successor?, if_neg goesOn]

/-- Every configuration that is yielded simulates one of the textbook run. -/
theorem exists_reaches_of_nth
    {word : String} {index : Nat}
    {configuration : TapeMachine.Configuration}
    (built : description.build = .ok machine)
    (yielded :
      ((Run.begin machine word).nth index).1 = some configuration) :
    ∃ textbook,
      Reaches description word index textbook ∧
        configuration.Simulates textbook := by
  induction index generalizing configuration with
  | zero =>
      rw [Run.nth_begin_zero] at yielded
      cases yielded
      exact ⟨_, Reaches.start, initial_simulates built word⟩
  | succ index induction =>
      rw [Run.nth_begin_succ, Option.bind_eq_some_iff] at yielded
      rcases yielded with ⟨before, yieldedBefore, follows⟩
      rcases induction yieldedBefore with ⟨textbook, reached, simulates⟩
      simp only [Machine.successor?] at follows
      split at follows
      · cases follows
      · next goesOn =>
          cases follows
          rw [simulates.state, halting_iff built] at goesOn
          rcases Step.exists description textbook with ⟨after, step⟩
          exact
            ⟨after, reached.next goesOn step,
              step_simulates built simulates step⟩

/--
The run of a machine on a word has a configuration at some place exactly when
the textbook run has one there.  This is then the only one there, it has the
same state, and the machine shows the least span of its infinite tape.
-/
theorem nth_refines_textbook
    {description : Description} {machine : Machine}
    (built : description.build = .ok machine)
    (word : String) (index : Nat) :
    ((∃ configuration,
        ((Run.begin machine word).nth index).1 = some configuration) ↔
      ∃! textbook, Reaches description word index textbook) ∧
    ∀ configuration textbook,
      ((Run.begin machine word).nth index).1 = some configuration →
      Reaches description word index textbook →
        configuration.state = textbook.state ∧
          ∃ first last : Int,
            configuration.tape.Shows textbook.tape first last := by
  constructor
  · constructor
    · rintro ⟨configuration, yielded⟩
      rcases exists_reaches_of_nth built yielded with ⟨textbook, reached, -⟩
      exact
        ⟨textbook, reached, fun _ reached' => reached'.unique built reached⟩
    · rintro ⟨textbook, reached, -⟩
      rcases reached.exists_nth built with ⟨configuration, yielded, -⟩
      exact ⟨configuration, yielded⟩
  · intro configuration textbook yielded reached
    rcases reached.exists_nth built with ⟨configuration', yielded', simulates⟩
    rw [yielded] at yielded'
    cases yielded'
    exact ⟨simulates.state, simulates.tape.shows⟩

/-- Writes a stroke in front of its word. -/
def carry : Description where
  start := "scan"
  accept := "done"
  reject := "fail"
  blank := '_'
  transitions :=
    [⟨"scan", '1', "back", '0', .left⟩, ⟨"back", '_', "done", '1', .stay⟩]

theorem nth_refines_textbook_carry :
    ∃ machine : Machine,
      carry.build = .ok machine ∧
        ((Run.begin machine "1").nth 2).1.isSome = true ∧
          ((∃ configuration,
              ((Run.begin machine "1").nth 2).1 = some configuration) ↔
            ∃! textbook, Reaches carry "1" 2 textbook) ∧
          ∀ configuration textbook,
            ((Run.begin machine "1").nth 2).1 = some configuration →
            Reaches carry "1" 2 textbook →
              configuration.state = textbook.state ∧
                ∃ first last : Int,
                  configuration.tape.Shows textbook.tape first last := by
  let machine : Machine :=
    { start := "scan", accept := "done", reject := "fail", blank? := some '_',
      rules := carry.rules, deterministic := by decide }
  have built : carry.build = .ok machine :=
    Description.build_eq_ok_iff.2 ⟨rfl, rfl, rfl, rfl, rfl⟩
  exact ⟨machine, built, by decide, nth_refines_textbook built "1" 2⟩

end Textbook

end TapeMachine
