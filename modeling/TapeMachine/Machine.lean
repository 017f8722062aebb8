import TapeMachine.Configuration
import TapeMachine.Description

/-!
# Machines

A machine is deterministic: its type carries the proof that no two rules share
a state and a symbol.  Building a machine is therefore a check, and the check
names the first rule whose situation was already taken.

A machine built from a description has replaced the symbol that stands for the
blank by the blank itself, in its rules and later in every word it is given.  A
machine built from rules takes rules and words as they are.
-/

namespace TapeMachine

/-- The first rule whose situation occurs before it, given the situations seen so far. -/
def firstRepeat? (seen : List (String × Symbol)) : List Transition → Option Transition
  | [] => none
  | rule :: rest =>
    if rule.key ∈ seen then some rule else firstRepeat? (rule.key :: seen) rest

theorem firstRepeat?_eq_none_iff {seen : List (String × Symbol)} {rules : List Transition} :
    firstRepeat? seen rules = none ↔
      (rules.map Transition.key).Nodup ∧ ∀ rule ∈ rules, rule.key ∉ seen := by
  induction rules generalizing seen with
  | nil => simp [firstRepeat?]
  | cons rule rest ih =>
    by_cases taken : rule.key ∈ seen
    · simp [firstRepeat?, taken]
    · simp only [firstRepeat?, taken, if_false, ih, List.map_cons, List.nodup_cons,
        List.mem_map, not_exists, not_and, List.mem_cons, not_or, forall_eq_or_imp]
      grind

/-- A single-tape machine in which every situation has at most one rule. -/
structure Machine where
  start : String
  accept : String
  reject : String
  /-- The symbol that stands for the blank in words, if the machine has one. -/
  blank? : Option Symbol
  /-- The rules, in terms of the symbols on the tape. -/
  rules : List Transition
  deterministic : (rules.map Transition.key).Nodup

namespace Machine

/--
The machine with the given rules, or the first rule whose situation was already
taken by one before it.
-/
def ofRules (start accept reject : String) (rules : List Transition) :
    Except Transition Machine :=
  match repeated : firstRepeat? [] rules with
  | some rule => .error rule
  | none =>
    .ok {
      start, accept, reject, rules
      blank? := none
      deterministic := (firstRepeat?_eq_none_iff.1 repeated).1
    }

/--
The machine a description describes, or the first transition whose situation
was already taken by one before it, in the symbols of the tape.
-/
def ofDescription (description : Description) : Except Transition Machine := do
  let machine ←
    ofRules description.start description.accept description.reject description.rules
  return { machine with blank? := some description.blank }

/-- The symbol that shows a blank cell. -/
def shownBlank (machine : Machine) : Symbol :=
  machine.blank?.getD Symbol.shownBlank

/-- Whether a state ends every run that reaches it. -/
def isHalting (machine : Machine) (state : String) : Bool :=
  state == machine.accept || state == machine.reject

/-- The rule for a state and a symbol, if there is one. -/
def rule? (machine : Machine) (state : String) (symbol : Symbol) : Option Transition :=
  machine.rules.find? fun rule => rule.state == state && rule.symbol == symbol

theorem rule?_eq_none_iff {machine : Machine} {state : String} {symbol : Symbol} :
    machine.rule? state symbol = none ↔
      ∀ rule ∈ machine.rules, rule.key ≠ (state, symbol) := by
  simp [rule?, Transition.key]

/-- A rule is found for its situation, because no other rule has the same one. -/
theorem rule?_eq_some_iff {machine : Machine} {state : String} {symbol : Symbol}
    {rule : Transition} :
    machine.rule? state symbol = some rule ↔
      rule ∈ machine.rules ∧ rule.key = (state, symbol) := by
  have distinct := machine.deterministic
  simp only [rule?]
  generalize machine.rules = rules at distinct ⊢
  induction rules with
  | nil => simp
  | cons first rest ih =>
    simp only [List.map_cons, List.nodup_cons] at distinct
    by_cases fits : first.key = (state, symbol)
    · have test : (first.state == state && first.symbol == symbol) = true := by
        simpa [Transition.key] using fits
      simp only [List.find?_cons, test, Option.some.injEq, List.mem_cons]
      constructor
      · intro equal
        subst equal
        exact ⟨Or.inl rfl, fits⟩
      · intro found
        rcases found with ⟨equal | member, same⟩
        · exact equal.symm
        · exact absurd (List.mem_map.2 ⟨rule, member, same.trans fits.symm⟩) distinct.1
    · have test : (first.state == state && first.symbol == symbol) = false := by
        simpa [Transition.key] using fits
      simp only [List.find?_cons, test, ih distinct.2, List.mem_cons]
      constructor
      · intro found
        exact ⟨Or.inr found.1, found.2⟩
      · intro found
        rcases found with ⟨equal | member, same⟩
        · exact absurd (equal ▸ same) fits
        · exact ⟨member, same⟩

/-- The symbols a word puts on the tape. -/
def wordSymbols (machine : Machine) (word : String) : List Symbol :=
  match machine.blank? with
  | none => word.toList
  | some blank => word.toList.map fun symbol => if symbol = blank then Symbol.blank else symbol

/-- The configuration every run on `word` begins with. -/
def initial (machine : Machine) (word : String) : Configuration where
  state := machine.start
  tape := Tape.ofSymbols (machine.wordSymbols word)

/--
The configuration after one step.  Where no rule applies the machine moves to
the rejecting state and leaves the tape alone.  Halting states are no exception:
a step from one of them is a step like any other.
-/
def step (machine : Machine) (configuration : Configuration) : Configuration :=
  match configuration with
  | { state, tape } =>
    match machine.rule? state tape.read with
    | some rule => { state := rule.next, tape := tape.apply rule.write rule.direction }
    | none => { state := machine.reject, tape }

/-- The configuration after `count` steps, whether or not a halting state is met. -/
def steps (machine : Machine) : Nat → Configuration → Configuration
  | 0, configuration => configuration
  | count + 1, configuration => machine.steps count (machine.step configuration)

end Machine

end TapeMachine
