import TapeMachine.Proofs.Building
import TapeMachine.Proofs.Run.Equality

/-!
# Rules that make no difference

A run ends with the first configuration in a halting state, so a rule for such a
state is never applied.  Where no rule applies, a machine rejects and leaves the
tape alone; a rule that writes the symbol it reads, stays, and rejects says the
same.  Rules of both kinds may be added and left out without changing any run.

The store does change: a rule that writes outside it makes it grow, and a missing
rule does not.  The two runs therefore go in lockstep under equality of
configurations, which does not see the store.
-/

namespace TapeMachine

/-- The symbol under the head can be written again without any difference. -/
theorem Tape.apply_read_stay_beq (tape : Tape) :
    (tape.apply tape.read .stay == tape) = true := by
  rw [beq_iff_agrees]
  intro distance
  change (tape.apply tape.read .stay).seen distance = tape.seen distance
  rw [apply, seen_shift, seen_write, Direction.offset, Int.add_zero]
  split
  · next atHead => rw [atHead, read_eq_seen]
  · rfl

namespace Transition

/-- The rule that says what a machine does where it has no rule. -/
def rejecting (reject state : String) (symbol : Symbol) : Transition where
  state
  symbol
  next := reject
  write := symbol
  direction := .stay

/-- Whether a rule is for a halting state. -/
def IsDead (accept reject : String) (rule : Transition) : Prop :=
  rule.state = accept ∨ rule.state = reject

instance (accept reject : String) :
    DecidablePred (IsDead accept reject) :=
  fun rule =>
    inferInstanceAs (Decidable (rule.state = accept ∨ rule.state = reject))

end Transition

/--
The edited rules differ from the others in rules for halting states, and in
rules that reject in situations for which there was no rule.
-/
structure IdleEdit
    (accept reject : String) (rules edited : List Transition) : Prop where
  distinct : (edited.map Transition.key).Nodup
  kept : ∀ rule ∈ rules, ¬ rule.IsDead accept reject → rule ∈ edited
  added : ∀ rule ∈ edited, rule ∉ rules →
    rule.IsDead accept reject ∨
      rule.key ∉ rules.map Transition.key ∧
        rule = .rejecting reject rule.state rule.symbol

namespace IdleEdit

section Lookup

variable
    {machine edited : Machine}
    {state : String}

/-- In a state that does not halt, edited rules add only that the machine rejects. -/
theorem rule?_cases
    (edit : IdleEdit machine.accept machine.reject machine.rules edited.rules)
    (running : machine.isHalting state = false) (symbol : Symbol) :
    edited.rule? state symbol = machine.rule? state symbol ∨
      machine.rule? state symbol = none ∧
        edited.rule? state symbol =
          some (.rejecting machine.reject state symbol) := by
  have alive {rule : Transition} (applies : rule.key = (state, symbol)) :
      ¬ rule.IsDead machine.accept machine.reject := by
    intro dead
    rcases Prod.mk.inj applies with ⟨rfl, -⟩
    rw [(machine.isHalting_iff _).mpr dead] at running
    cases running
  cases found : machine.rule? state symbol with
  | some rule =>
      left
      rw [Machine.rule?_eq_some_iff] at found ⊢
      exact ⟨edit.kept rule found.1 (alive found.2), found.2⟩
  | none =>
      rw [Machine.rule?_eq_none_iff] at found
      cases foundEdited : edited.rule? state symbol with
      | none => exact Or.inl rfl
      | some rule =>
          right
          rw [Machine.rule?_eq_some_iff] at foundEdited
          rcases foundEdited with ⟨member, applies⟩
          have isNew : rule ∉ machine.rules :=
            fun isOld => found rule isOld applies
          rcases edit.added rule member isNew with dead | ⟨-, isRejecting⟩
          · exact absurd dead (alive applies)
          · rcases Prod.mk.inj applies with ⟨rfl, rfl⟩
            exact ⟨rfl, congrArg some isRejecting⟩

end Lookup

section Machines

variable
    {machine edited : Machine}

theorem step_beq
    (edit : IdleEdit machine.accept machine.reject machine.rules edited.rules)
    (sameReject : edited.reject = machine.reject)
    {left right : Configuration}
    (equal : (left == right) = true)
    (running : machine.isHalting left.state = false) :
    (machine.step left == edited.step right) = true := by
  suffices same : (machine.step left == edited.step left) = true from
    Configuration.beq_trans same (edited.step_beq equal)
  rcases left with ⟨state, tape⟩
  rcases edit.rule?_cases running tape.read with
    sameRule | ⟨noRule, rejects⟩
  · have same : edited.step ⟨state, tape⟩ = machine.step ⟨state, tape⟩ := by
      simp only [Machine.step, sameRule, sameReject]
    rw [same]
    exact Configuration.beq_refl _
  · simp only [Machine.step, noRule, rejects]
    rw [Configuration.beq_iff]
    exact ⟨rfl, Tape.beq_symm tape.apply_read_stay_beq⟩

theorem inLockstep
    (edit : IdleEdit machine.accept machine.reject machine.rules edited.rules)
    (sameAccept : edited.accept = machine.accept)
    (sameReject : edited.reject = machine.reject) :
    machine.InLockstep edited
      (fun left right => (left == right) = true) := by
  apply Machine.inLockstep_of_step
  · intro left right equal
    rw [Machine.isHalting, Machine.isHalting, sameAccept, sameReject,
      ((Configuration.beq_iff left right).mp equal).1]
  · intro left right equal running
    exact edit.step_beq sameReject equal running

end Machines

end IdleEdit

namespace Run

/--
Rules for halting states may be added to the rules of a machine and left out, and
so may rules that reject where there was no rule.  Either way there is a machine
with the new rules, and on every word its run is as long as before and yields
equal configurations.
-/
theorem idle_edit_changes_no_run
    {start accept reject : String}
    {rules edited : List Transition} {machine : Machine}
    (built : Machine.build start accept reject rules = .ok machine)
    (edit : IdleEdit accept reject rules edited) :
    ∃ machine' : Machine,
      Machine.build start accept reject edited = .ok machine' ∧
      ∀ word : String,
        machine'.lastPlace word = machine.lastPlace word ∧
        ∀ place : Nat,
          (((begin machine word).nth place).1 ==
            ((begin machine' word).nth place).1) = true := by
  rcases Machine.build_eq_ok_iff.mp built with
    ⟨rfl, rfl, rfl, noBlank, rfl⟩
  let machine' : Machine :=
    { start := machine.start
      accept := machine.accept
      reject := machine.reject
      blank? := none
      rules := edited
      deterministic := edit.distinct }
  have lockstep :
      machine.InLockstep machine'
        (fun left right => (left == right) = true) :=
    IdleEdit.inLockstep edit rfl rfl
  refine
    ⟨machine', Machine.build_eq_ok_iff.mpr ⟨rfl, rfl, rfl, rfl, rfl⟩, ?_⟩
  intro word
  have begins :
      (machine.initial word == machine'.initial word) = true := by
    rw [Configuration.beq_iff]
    refine ⟨rfl, ?_⟩
    simp only [Machine.initial, Machine.wordSymbols, noBlank, machine']
    exact Tape.beq_refl _
  exact
    ⟨(lastPlace_eq_of_inLockstep lockstep begins).symm,
      fun place => beq_of_rel (nth_begin_rel lockstep begins place)⟩

/-- A machine that stops behind its word for want of a rule. -/
def stopping : Machine where
  start := "go"
  accept := "yes"
  reject := "no"
  blank? := none
  rules := [⟨"go", 'a', "go", 'a', .right⟩, ⟨"no", 'b', "go", 'a', .left⟩]
  deterministic := by decide

/-- The same machine with a rule for where it stops, and another dead rule. -/
def stoppingByRule : Machine where
  start := "go"
  accept := "yes"
  reject := "no"
  blank? := none
  rules :=
    [.rejecting "no" "go" Symbol.blank, ⟨"yes", 'a', "go", 'b', .stay⟩,
      ⟨"go", 'a', "go", 'a', .right⟩]
  deterministic := by decide

/-- The rule writes a blank behind the word, where the other machine stores nothing. -/
theorem idle_edit_changes_no_run_stopping :
    IdleEdit "yes" "no" stopping.rules stoppingByRule.rules ∧
    (stopping.course "a" 2).tape.storedLength ≠
      (stoppingByRule.course "a" 2).tape.storedLength ∧
    ∀ (word : String) (place : Nat),
      (((begin stopping word).nth place).1 ==
        ((begin stoppingByRule word).nth place).1) = true := by
  have built :
      Machine.build "go" "yes" "no" stopping.rules = .ok stopping :=
    Machine.build_eq_ok_iff.mpr ⟨rfl, rfl, rfl, rfl, rfl⟩
  have edit : IdleEdit "yes" "no" stopping.rules stoppingByRule.rules :=
    { distinct := by decide
      kept := by decide
      added := by decide }
  refine ⟨edit, by decide, ?_⟩
  rcases idle_edit_changes_no_run built edit with ⟨machine', built', same⟩
  have builtByRule :
      Machine.build "go" "yes" "no" stoppingByRule.rules =
        .ok stoppingByRule :=
    Machine.build_eq_ok_iff.mpr ⟨rfl, rfl, rfl, rfl, rfl⟩
  obtain rfl : machine' = stoppingByRule :=
    Except.ok.inj (built'.symm.trans builtByRule)
  intro word place
  exact (same word).2 place

end Run

end TapeMachine
