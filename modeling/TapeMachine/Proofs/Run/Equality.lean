import TapeMachine.Proofs.Run.Lockstep
import TapeMachine.Proofs.Tape.Equality

/-!
# Equality of configurations

A machine sees of a configuration only its state and the symbol under the head,
and acts on the tape only by writing and moving.  So it cannot tell equal
configurations apart: they step to equal ones, and runs that begin in equal
ones stay equal and end together.

In particular it does not matter how many blanks stand behind a word.
-/

namespace TapeMachine

namespace Configuration

theorem beq_iff
    (left right : Configuration) :
    (left == right) = true ↔
      left.state = right.state ∧ (left.tape == right.tape) = true := by
  rcases left with ⟨leftState, leftTape⟩
  rcases right with ⟨rightState, rightTape⟩
  change (leftState == rightState && leftTape == rightTape) = true ↔ _
  simp

theorem beq_refl (configuration : Configuration) :
    (configuration == configuration) = true := by
  rw [beq_iff]
  exact ⟨rfl, configuration.tape.beq_refl⟩

theorem beq_trans
    {left middle right : Configuration}
    (equal : (left == middle) = true)
    (equal' : (middle == right) = true) :
    (left == right) = true := by
  rw [beq_iff] at equal equal' ⊢
  exact
    ⟨equal.1.trans equal'.1, Tape.beq_trans equal.2 equal'.2⟩

end Configuration

namespace Machine

/-! ## Steps -/

theorem step_beq
    (machine : Machine) {left right : Configuration}
    (equal : (left == right) = true) :
    (machine.step left == machine.step right) = true := by
  rcases left with ⟨state, leftTape⟩
  rcases right with ⟨rightState, rightTape⟩
  rw [Configuration.beq_iff] at equal ⊢
  rcases equal with ⟨rfl, equal⟩
  simp only [step, Tape.read_eq_of_beq equal]
  split
  · next rule _ =>
      exact
        ⟨rfl,
          Tape.perform_beq equal [.apply rule.write rule.direction]⟩
  · exact ⟨rfl, equal⟩

/-- A machine runs in lockstep with itself from equal configurations. -/
theorem inLockstep_beq (machine : Machine) :
    machine.InLockstep machine
      (fun left right => (left == right) = true) := by
  apply inLockstep_of_step
  · intro left right equal
    rw [((Configuration.beq_iff left right).mp equal).1]
  · intro left right equal _
    exact machine.step_beq equal

/-! ## Words with blanks behind them -/

/-- Whether a symbol of a word puts a blank on the tape. -/
def DenotesBlank (machine : Machine) (symbol : Symbol) : Prop :=
  symbol = Symbol.blank ∨ machine.blank? = some symbol

/-- What stands on the tape for a symbol of a word. -/
def wordSymbol (machine : Machine) (symbol : Symbol) : Symbol :=
  if machine.blank? = some symbol then Symbol.blank else symbol

theorem wordSymbols_eq_map
    (machine : Machine) (word : String) :
    machine.wordSymbols word = word.toList.map machine.wordSymbol := by
  simp only [wordSymbols]
  split
  · next noBlank =>
      have unchanged : machine.wordSymbol = id := by
        ext symbol
        simp [wordSymbol, noBlank]
      rw [unchanged, List.map_id]
  · next blank isBlank =>
      apply List.map_congr_left
      intro symbol _
      simp only [wordSymbol, isBlank, Option.some.injEq, eq_comm]

theorem wordSymbol_of_denotesBlank
    (machine : Machine) {symbol : Symbol}
    (denotes : machine.DenotesBlank symbol) :
    machine.wordSymbol symbol = Symbol.blank := by
  rcases denotes with rfl | isBlank
  · simp [wordSymbol]
  · simp [wordSymbol, isBlank]

theorem initial_append_beq
    (machine : Machine) (word : String) {blanks : String}
    (areBlank : ∀ symbol ∈ blanks.toList, machine.DenotesBlank symbol) :
    (machine.initial (word ++ blanks) == machine.initial word) = true := by
  rw [Configuration.beq_iff]
  refine ⟨rfl, ?_⟩
  simp only [initial, wordSymbols_eq_map, String.toList_append,
    List.map_append]
  apply Tape.ofSymbols_append_beq
  intro symbol member
  rcases List.mem_map.mp member with ⟨letter, written, rfl⟩
  exact machine.wordSymbol_of_denotesBlank (areBlank letter written)

end Machine

namespace Run

/-! ## Runs -/

theorem beq_of_rel
    {left right : Option Configuration}
    (related :
      Option.Rel (fun left right : Configuration => (left == right) = true)
        left right) :
    (left == right) = true := by
  cases related with
  | none => rfl
  | some equal => exact equal

/-- Runs that begin in equal configurations stay equal and end together. -/
theorem nth_begin_beq
    (machine : Machine) {left right : String}
    (equal : (machine.initial left == machine.initial right) = true)
    (index : Nat) :
    (((begin machine left).nth index).1 ==
      ((begin machine right).nth index).1) = true :=
  beq_of_rel (nth_begin_rel machine.inLockstep_beq equal index)

theorem nth_append_beq
    (machine : Machine) (word : String) {blanks blanks' : String}
    (areBlank : ∀ symbol ∈ blanks.toList, machine.DenotesBlank symbol)
    (areBlank' : ∀ symbol ∈ blanks'.toList, machine.DenotesBlank symbol)
    (index : Nat) :
    (((begin machine (word ++ blanks)).nth index).1 ==
      ((begin machine (word ++ blanks')).nth index).1) = true := by
  apply nth_begin_beq
  rw [Configuration.beq_iff]
  refine ⟨rfl, ?_⟩
  have plain := (Configuration.beq_iff _ _).mp
    (machine.initial_append_beq word areBlank)
  have plain' := (Configuration.beq_iff _ _).mp
    (machine.initial_append_beq word areBlank')
  exact Tape.beq_trans plain.2 (Tape.beq_symm plain'.2)

/--
Equality of tapes is exactly indistinguishability, and everything respects it:
operations, rendering, the steps of machines, and runs on words that differ
only in the blanks behind them.
-/
theorem equality_is_indistinguishability :
    (∀ left right : Tape,
      ((left == right) = true ↔
        ∀ operations : List Tape.Operation,
          (left.perform operations).read =
            (right.perform operations).read) ∧
      ((left == right) = true ↔
        ∀ distance : Int, left.seen distance = right.seen distance) ∧
      ((left == right) = true →
        (∀ operations : List Tape.Operation,
          (left.perform operations == right.perform operations) = true) ∧
        ∀ shownBlank : Symbol,
          left.render shownBlank = right.render shownBlank)) ∧
    (∀ tape : Tape,
      ((Tape.ofSymbols tape.content).perform
          (List.replicate tape.headOffset (.shift .right)) == tape) = true) ∧
    (∀ left right : Configuration,
      (left == right) = true ↔
        left.state = right.state ∧
        ∀ operations : List Tape.Operation,
          (left.tape.perform operations).read =
            (right.tape.perform operations).read) ∧
    (∀ (machine : Machine) (left right : Configuration),
      (left == right) = true →
        (machine.step left == machine.step right) = true) ∧
    (∀ (machine : Machine) (word blanks blanks' : String),
      (∀ symbol ∈ blanks.toList, machine.DenotesBlank symbol) →
      (∀ symbol ∈ blanks'.toList, machine.DenotesBlank symbol) →
      ∀ index : Nat,
        (((begin machine (word ++ blanks)).nth index).1 ==
          ((begin machine (word ++ blanks')).nth index).1) = true) := by
  refine ⟨fun left right => ⟨?_, ?_, fun equal => ⟨?_, ?_⟩⟩, ?_, ?_, ?_, ?_⟩
  · exact Tape.beq_iff_forall_perform_read left right
  · exact Tape.beq_iff_agrees left right
  · exact Tape.perform_beq equal
  · exact Tape.render_eq_of_beq equal
  · exact Tape.rebuilt_beq
  · intro left right
    rw [Configuration.beq_iff, Tape.beq_iff_forall_perform_read]
  · intro machine left right equal
    exact machine.step_beq equal
  · intro machine word blanks blanks' areBlank areBlank'
    exact nth_append_beq machine word areBlank areBlank'

end Run

end TapeMachine
