import TapeMachine.Proofs.Building
import TapeMachine.Proofs.Run.Equality
import TapeMachine.Proofs.Tape.Renaming

/-!
# Names carry no meaning

A renaming replaces states and symbols, none of them by the same as another, and
leaves the blank of the tape what it is.  Applied to a description it gives one
that is as good: a machine is made of both or of neither, a repeated situation is
reported under its new names, and a run on a renamed word yields the same
configurations under their new names, one for one and in the same cells.

The symbol that stands for the blank on paper is renamed like any other.  What is
put in its place is not, and this is the reason why the blank of the tape may not
be renamed.
-/

namespace TapeMachine

/-- Other names for states and symbols, no two the same; the blank of the tape stays. -/
structure Renaming where
  state : String → String
  symbol : Symbol → Symbol
  state_injective : Function.Injective state
  symbol_injective : Function.Injective symbol
  symbol_blank : symbol Symbol.blank = Symbol.blank

namespace Renaming

/-! ## Renamed things -/

/-- A transition under other names. -/
def transition (names : Renaming) (transition : Transition) :
    Transition where
  state := names.state transition.state
  symbol := names.symbol transition.symbol
  next := names.state transition.next
  write := names.symbol transition.write
  direction := transition.direction

/-- A description under other names. -/
def description (names : Renaming) (description : Description) :
    Description where
  start := names.state description.start
  accept := names.state description.accept
  reject := names.state description.reject
  blank := names.symbol description.blank
  transitions := description.transitions.map names.transition

/-- A word under other names. -/
def word (names : Renaming) (word : String) : String :=
  String.ofList (word.toList.map names.symbol)

/-- A configuration under other names. -/
def configuration (names : Renaming) (configuration : Configuration) :
    Configuration where
  state := names.state configuration.state
  tape := configuration.tape.mapSymbols names.symbol

/-- The names of a situation, replaced. -/
def key (names : Renaming) (key : String × Symbol) : String × Symbol :=
  (names.state key.1, names.symbol key.2)

theorem key_injective (names : Renaming) :
    Function.Injective names.key := by
  rintro ⟨state, symbol⟩ ⟨state', symbol'⟩ same
  rcases Prod.mk.inj same with ⟨sameState, sameSymbol⟩
  exact
    Prod.ext (names.state_injective sameState)
      (names.symbol_injective sameSymbol)

theorem map_key (names : Renaming) (rules : List Transition) :
    (rules.map names.transition).map Transition.key =
      (rules.map Transition.key).map names.key := by
  rw [List.map_map, List.map_map]
  rfl

/-! ## Descriptions -/

section Descriptions

variable
    (names : Renaming)
    (description : Description)

theorem internal_description (symbol : Symbol) :
    (names.description description).internal (names.symbol symbol) =
      names.symbol (description.internal symbol) := by
  simp only [Description.internal, Renaming.description,
    names.symbol_injective.eq_iff]
  split
  · exact names.symbol_blank.symm
  · rfl

theorem presented_description (symbol : Symbol) :
    (names.description description).presented (names.symbol symbol) =
      names.symbol (description.presented symbol) := by
  have staysInk :
      names.symbol symbol = Symbol.blank ↔ symbol = Symbol.blank := by
    rw [← names.symbol_injective.eq_iff (a := symbol),
      names.symbol_blank]
  simp only [Description.presented, Symbol.present, Renaming.description,
    staysInk]
  split
  · rfl
  · rfl

theorem rules_description :
    (names.description description).rules =
      description.rules.map names.transition := by
  simp only [Description.rules, Renaming.description, List.map_map]
  apply List.map_congr_left
  intro transition _
  simp only [Function.comp_apply, Transition.mapSymbols,
    Renaming.transition, Transition.mk.injEq, true_and, and_true]
  exact
    ⟨names.internal_description description transition.symbol,
      names.internal_description description transition.write⟩

end Descriptions

/-! ## Machines -/

/-- A machine under other names. -/
def machine (names : Renaming) (machine : Machine) : Machine where
  start := names.state machine.start
  accept := names.state machine.accept
  reject := names.state machine.reject
  blank? := machine.blank?.map names.symbol
  rules := machine.rules.map names.transition
  deterministic := by
    rw [map_key]
    exact machine.deterministic.map names.key_injective

theorem build_description_of_ok
    (names : Renaming)
    {description : Description} {machine : Machine}
    (built : description.build = .ok machine) :
    (names.description description).build =
      .ok (names.machine machine) := by
  rcases Description.build_eq_ok_iff.mp built with
    ⟨isStart, isAccept, isReject, isBlank, isRules⟩
  rw [Description.build_eq_ok_iff, rules_description, ← isRules]
  simp only [Renaming.machine, Renaming.description, isStart, isAccept,
    isReject, isBlank, Option.map_some]
  trivial

theorem build_description_of_error
    (names : Renaming)
    {description : Description} {state : String} {symbol : Symbol}
    (failed :
      description.build = .error (.duplicateTransition state symbol)) :
    (names.description description).build =
      .error
        (.duplicateTransition (names.state state)
          (names.symbol symbol)) := by
  rcases Description.build_eq_error_iff.mp failed with
    ⟨rule, repeated, isError⟩
  rcases MachineError.duplicateTransition.inj isError with ⟨rfl, rfl⟩
  rcases Machine.ofDescription_eq_error_iff.mp repeated with
    ⟨before, after, composed, distinct, again⟩
  rw [Description.build_eq_error_iff]
  refine ⟨names.transition rule, ?_, ?_⟩
  · rw [Machine.ofDescription_eq_error_iff]
    refine
      ⟨before.map names.transition, after.map names.transition,
        ?_, ?_, ?_⟩
    · rw [rules_description, composed, List.map_append, List.map_cons]
    · rw [map_key]
      exact distinct.map names.key_injective
    · rw [map_key]
      exact List.mem_map_of_mem again
  · rw [← presented_description]
    rfl

section Machines

variable
    (names : Renaming)
    (machine : Machine)

theorem rule?_machine (state : String) (symbol : Symbol) :
    (names.machine machine).rule? (names.state state)
        (names.symbol symbol) =
      (machine.rule? state symbol).map names.transition := by
  simp only [Machine.rule?, Renaming.machine, List.find?_map]
  congr 2
  funext rule
  rw [Bool.eq_iff_iff]
  simp only [Function.comp_apply, Renaming.transition, Bool.and_eq_true,
    beq_iff_eq, names.state_injective.eq_iff,
    names.symbol_injective.eq_iff]

theorem isHalting_machine (state : String) :
    (names.machine machine).isHalting (names.state state) =
      machine.isHalting state := by
  rw [Bool.eq_iff_iff]
  simp only [Machine.isHalting_iff, Renaming.machine,
    names.state_injective.eq_iff]

/-- A step commutes with the renaming, store and all. -/
theorem step_machine (configuration : Configuration) :
    (names.machine machine).step
        (names.configuration configuration) =
      names.configuration (machine.step configuration) := by
  rcases configuration with ⟨state, tape⟩
  simp only [Machine.step, Renaming.configuration,
    Tape.read_mapSymbols names.symbol_blank, rule?_machine]
  cases machine.rule? state tape.read with
  | none => rfl
  | some rule =>
      simp only [Option.map_some, Renaming.transition,
        Tape.apply_mapSymbols names.symbol_blank]

theorem inLockstep_machine :
    machine.InLockstep (names.machine machine)
      (fun before after => names.configuration before = after) := by
  apply Machine.inLockstep_of_step
  · rintro before _ rfl
    exact (names.isHalting_machine machine before.state).symm
  · rintro before _ rfl -
    exact (names.step_machine machine before).symm

theorem wordSymbol_machine (symbol : Symbol) :
    (names.machine machine).wordSymbol (names.symbol symbol) =
      names.symbol (machine.wordSymbol symbol) := by
  have sameBlank :
      (names.machine machine).blank? = some (names.symbol symbol) ↔
        machine.blank? = some symbol := by
    rw [← (Option.map_injective names.symbol_injective).eq_iff
      (b := some symbol)]
    rfl
  simp only [Machine.wordSymbol, sameBlank]
  split
  · exact names.symbol_blank.symm
  · rfl

theorem initial_machine (word : String) :
    (names.machine machine).initial (names.word word) =
      names.configuration (machine.initial word) := by
  have sameSymbols :
      (names.machine machine).wordSymbols (names.word word) =
        (machine.wordSymbols word).map names.symbol := by
    rw [Machine.wordSymbols_eq_map, Machine.wordSymbols_eq_map,
      Renaming.word, String.toList_ofList, List.map_map, List.map_map]
    apply List.map_congr_left
    intro symbol _
    exact names.wordSymbol_machine machine symbol
  rw [Machine.initial, sameSymbols, Tape.ofSymbols_map]
  rfl

end Machines

/-! ## Runs -/

/--
The second configuration shows what the first does, under other names and in the
same places, and stores as much.
-/
structure Carries
    (names : Renaming) (before after : Configuration) : Prop where
  state : after.state = names.state before.state
  content : after.tape.content = before.tape.content.map names.symbol
  headOffset : after.tape.headOffset = before.tape.headOffset
  storedLength : after.tape.storedLength = before.tape.storedLength

theorem carries_configuration
    (names : Renaming) (configuration : Configuration) :
    names.Carries configuration
      (names.configuration configuration) where
  state := rfl
  content :=
    Tape.content_mapSymbols names.symbol_blank
      names.symbol_injective configuration.tape
  headOffset :=
    Tape.headOffset_mapSymbols names.symbol_blank
      names.symbol_injective configuration.tape
  storedLength := configuration.tape.storedLength_mapSymbols

theorem rel_carries
    {names : Renaming} {before after : Option Configuration}
    (related :
      Option.Rel
        (fun before after => names.configuration before = after)
        before after) :
    Option.Rel names.Carries before after := by
  cases related with
  | none => exact .none
  | some renamed =>
      subst renamed
      exact .some (names.carries_configuration _)

/--
A renamed description makes a machine exactly if the description does.  If it
makes none, the situation reported for it is the renamed one.  If it makes one,
its run on a renamed word is as long as the other on the word itself and yields
the same configurations under their new names.
-/
theorem names_carry_no_meaning
    (names : Renaming) (description : Description) :
    ((∃ machine, (names.description description).build = .ok machine) ↔
      ∃ machine, description.build = .ok machine) ∧
    (∀ error, (names.description description).build = .error error ↔
      ∃ (state : String) (symbol : Symbol),
        description.build = .error (.duplicateTransition state symbol) ∧
        error =
          .duplicateTransition (names.state state)
            (names.symbol symbol)) ∧
    (∀ machine machine' : Machine,
      description.build = .ok machine →
      (names.description description).build = .ok machine' →
      ∀ word : String,
        machine'.lastPlace (names.word word) = machine.lastPlace word ∧
        ∀ place : Nat,
          Option.Rel names.Carries
            ((Run.begin machine word).nth place).1
            ((Run.begin machine' (names.word word)).nth place).1) := by
  refine ⟨?_, ?_, ?_⟩
  · cases built : description.build with
    | ok machine => simp [names.build_description_of_ok built]
    | error error =>
        rcases Description.build_eq_error_iff.mp built with
          ⟨rule, -, rfl⟩
        simp [names.build_description_of_error built]
  · intro error
    cases built : description.build with
    | ok machine => simp [names.build_description_of_ok built]
    | error found =>
        rcases Description.build_eq_error_iff.mp built with
          ⟨rule, -, rfl⟩
        simp [names.build_description_of_error built, eq_comm]
  · intro machine machine' built built' word
    rw [names.build_description_of_ok built] at built'
    obtain rfl := Except.ok.inj built'
    have lockstep := names.inLockstep_machine machine
    have begins := (names.initial_machine machine word).symm
    exact
      ⟨(Run.lastPlace_eq_of_inLockstep lockstep begins).symm,
        fun place =>
          rel_carries (Run.nth_begin_rel lockstep begins place)⟩

/-- Longer names for all states; the shown blank and another symbol change places. -/
def exchanging : Renaming where
  state := ("q" ++ ·)
  symbol := Equiv.swap 'B' '_'
  state_injective := fun _ _ same => String.append_right_inj "q" |>.mp same
  symbol_injective := (Equiv.swap 'B' '_').injective
  symbol_blank := by decide

/-- A description in which the two exchanged symbols both occur. -/
def underlined : Description where
  start := "0"
  accept := "1"
  reject := "2"
  blank := 'B'
  transitions := [⟨"0", '_', "0", 'B', .right⟩, ⟨"0", 'B', "1", '_', .left⟩]

theorem names_carry_no_meaning_exchanging :
    ∃ machine machine' : Machine,
      underlined.build = .ok machine ∧
      (exchanging.description underlined).build = .ok machine' ∧
      machine.rules = [⟨"0", '_', "0", Symbol.blank, .right⟩,
        ⟨"0", Symbol.blank, "1", '_', .left⟩] ∧
      machine'.rules = [⟨"q0", 'B', "q0", Symbol.blank, .right⟩,
        ⟨"q0", Symbol.blank, "q1", 'B', .left⟩] ∧
      machine'.lastPlace "BB_" = machine.lastPlace "__B" ∧
      ∀ place : Nat,
        Option.Rel exchanging.Carries
          ((Run.begin machine "__B").nth place).1
          ((Run.begin machine' "BB_").nth place).1 := by
  have same :=
    (names_carry_no_meaning exchanging underlined).2.2 _ _ rfl rfl "__B"
  have isRenamed : exchanging.word "__B" = "BB_" := by decide
  rw [isRenamed] at same
  exact ⟨_, _, rfl, rfl, rfl, rfl, same⟩

end Renaming

end TapeMachine
