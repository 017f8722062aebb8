import TapeMachine.Proofs.Run.Course
import TapeMachine.Proofs.Tape.Sides

/-!
# Walks

What a program does is a succession of walks: the head goes over a part of the
word in one state, something changes at the end of it, and the next walk begins.
A walk is counted in steps, and no step of it is made from a halting state, so it
is a part of every run that comes to its beginning.

Walks are composed, and a walk over any number of cells is a single one if the
state has a rule for each symbol on the way that stays in the state, whether the
rule leaves the symbol alone or writes another in its place.
-/

namespace TapeMachine

/-- A state, and the two sides of a head. -/
structure Situation where
  state : String
  sides : Sides

/-- The configuration has the state and the sides. -/
def Situation.Describes (situation : Situation) (configuration : Configuration) :
    Prop :=
  configuration.state = situation.state ∧
    configuration.tape.HasSides situation.sides

namespace Machine

/-- So many steps lead from the one situation to the other, none of them from a halting state. -/
def Walks (machine : Machine) (count : Nat) (before after : Situation) : Prop :=
  ∀ configuration, before.Describes configuration →
    after.Describes (machine.steps count configuration) ∧
      ∀ earlier < count,
        machine.isHalting (machine.steps earlier configuration).state = false

section Composition

variable
    {machine : Machine}
    {before middle after : Situation}
    {count further : Nat}

theorem walks_zero
    (same : ∀ configuration,
      before.Describes configuration → after.Describes configuration) :
    machine.Walks 0 before after := by
  intro configuration described
  constructor
  · exact same configuration described
  · intro earlier impossible
    exact absurd impossible earlier.not_lt_zero

theorem walks_blank_left
    {state : String} (left right : List Symbol) :
    machine.Walks 0
      ⟨state, ⟨left ++ [Symbol.blank], right⟩⟩ ⟨state, ⟨left, right⟩⟩ :=
  walks_zero fun _ =>
    And.imp_right Tape.hasSides_append_blank_left.mp

theorem walks_blank_right
    {state : String} (left right : List Symbol) :
    machine.Walks 0
      ⟨state, ⟨left, right ++ [Symbol.blank]⟩⟩ ⟨state, ⟨left, right⟩⟩ :=
  walks_zero fun _ =>
    And.imp_right Tape.hasSides_append_blank_right.mp

theorem Walks.trans
    (walks : machine.Walks count before middle)
    (goesOn : machine.Walks further middle after) :
    machine.Walks (count + further) before after := by
  intro configuration described
  rcases walks configuration described with ⟨described', running⟩
  rcases goesOn _ described' with ⟨described'', running'⟩
  constructor
  · rw [steps_add]
    exact described''
  · intro earlier within
    by_cases early : earlier < count
    · exact running earlier early
    · rcases Nat.exists_eq_add_of_le (Nat.le_of_not_lt early) with
        ⟨since, rfl⟩
      rw [steps_add]
      exact running' since (Nat.lt_of_add_lt_add_left within)

end Composition

/-! ## Single steps -/

section Steps

variable
    {machine : Machine}
    {state : String}

theorem walks_one
    {sides : Sides} {next : Situation}
    (running : machine.isHalting state = false)
    (leads : ∀ configuration,
      Situation.Describes ⟨state, sides⟩ configuration →
        next.Describes (machine.step configuration)) :
    machine.Walks 1 ⟨state, sides⟩ next := by
  intro configuration described
  constructor
  · exact leads configuration described
  · intro earlier within
    obtain rfl : earlier = 0 := Nat.lt_one_iff.mp within
    rw [steps_zero, described.1]
    exact running

theorem walks_rule
    (sides : Sides) {rule : Transition}
    (running : machine.isHalting state = false)
    (applies : machine.rule? state sides.read = some rule) :
    machine.Walks 1 ⟨state, sides⟩
      ⟨rule.next, sides.apply rule.write rule.direction⟩ := by
  apply walks_one running
  rintro ⟨state', tape⟩ ⟨rfl, has⟩
  rw [← has.read] at applies
  simp only [step, applies]
  exact ⟨rfl, has.apply rule.write rule.direction⟩

/-- Where no rule applies, one step leads to the rejecting state. -/
theorem walks_stuck
    (sides : Sides)
    (running : machine.isHalting state = false)
    (stuck : machine.rule? state sides.read = none) :
    machine.Walks 1 ⟨state, sides⟩ ⟨machine.reject, sides⟩ := by
  apply walks_one running
  rintro ⟨state', tape⟩ ⟨rfl, has⟩
  rw [← has.read] at stuck
  simp only [step, stuck]
  exact ⟨rfl, has⟩

end Steps

/-! ## Scans -/

section Scans

variable
    {machine : Machine}
    {state : String}
    {scanned : List Symbol}
    {rewrite : Symbol → Symbol}

theorem walks_rewriting_right
    (running : machine.isHalting state = false)
    (passes : ∀ symbol ∈ scanned,
      machine.rule? state symbol =
        some ⟨state, symbol, state, rewrite symbol, .right⟩)
    (left right : List Symbol) :
    machine.Walks scanned.length
      ⟨state, ⟨left, scanned ++ right⟩⟩
      ⟨state, ⟨(scanned.map rewrite).reverse ++ left, right⟩⟩ := by
  induction scanned generalizing left with
  | nil => exact walks_zero fun _ described => described
  | cons symbol scanned induction =>
      rw [List.forall_mem_cons] at passes
      have first :
          machine.Walks 1
            ⟨state, ⟨left, symbol :: scanned ++ right⟩⟩
            ⟨state, ⟨rewrite symbol :: left, scanned ++ right⟩⟩ :=
        walks_rule ⟨left, symbol :: scanned ++ right⟩ running passes.1
      have others := first.trans (induction passes.2 (rewrite symbol :: left))
      rw [List.length_cons, Nat.add_comm, List.map_cons, List.reverse_cons,
        List.append_assoc]
      exact others

/-- A scan to the left begins and ends right after a movement to the left. -/
theorem walks_rewriting_left
    (running : machine.isHalting state = false)
    (passes : ∀ symbol ∈ scanned,
      machine.rule? state symbol =
        some ⟨state, symbol, state, rewrite symbol, .left⟩)
    (left right : List Symbol) :
    machine.Walks scanned.length
      ⟨state, .leftOf (scanned ++ left) right⟩
      ⟨state, .leftOf left ((scanned.map rewrite).reverse ++ right)⟩ := by
  induction scanned generalizing right with
  | nil => exact walks_zero fun _ described => described
  | cons symbol scanned induction =>
      rw [List.forall_mem_cons] at passes
      have first :
          machine.Walks 1
            ⟨state, .leftOf (symbol :: scanned ++ left) right⟩
            ⟨state, .leftOf (scanned ++ left) (rewrite symbol :: right)⟩ :=
        walks_rule (.leftOf (symbol :: scanned ++ left) right) running
          passes.1
      have others := first.trans (induction passes.2 (rewrite symbol :: right))
      rw [List.length_cons, Nat.add_comm, List.map_cons, List.reverse_cons,
        List.append_assoc]
      exact others

theorem walks_scan_right
    (running : machine.isHalting state = false)
    (passes : ∀ symbol ∈ scanned,
      machine.rule? state symbol = some ⟨state, symbol, state, symbol, .right⟩)
    (left right : List Symbol) :
    machine.Walks scanned.length
      ⟨state, ⟨left, scanned ++ right⟩⟩
      ⟨state, ⟨scanned.reverse ++ left, right⟩⟩ := by
  have scan := walks_rewriting_right running passes left right
  rwa [List.map_id'] at scan

theorem walks_scan_left
    (running : machine.isHalting state = false)
    (passes : ∀ symbol ∈ scanned,
      machine.rule? state symbol = some ⟨state, symbol, state, symbol, .left⟩)
    (left right : List Symbol) :
    machine.Walks scanned.length
      ⟨state, .leftOf (scanned ++ left) right⟩
      ⟨state, .leftOf left (scanned.reverse ++ right)⟩ := by
  have scan := walks_rewriting_left running passes left right
  rwa [List.map_id'] at scan

end Scans

end Machine

/-! ## Runs -/

/-- A word that does not mention the blank is put on the tape as it is. -/
theorem Machine.wordSymbols_eq_toList
    {machine : Machine} {blank : Symbol} {word : String}
    (isBlank : machine.blank? = some blank)
    (noBlank : blank ∉ word.toList) :
    machine.wordSymbols word = word.toList := by
  have unchanged :
      ∀ symbol ∈ word.toList,
        (if symbol = blank then Symbol.blank else symbol) = symbol := by
    intro symbol member
    rw [if_neg]
    rintro rfl
    exact noBlank member
  simp only [wordSymbols, isBlank]
  exact (List.map_congr_left unchanged).trans (List.map_id _)

/-- A walk from the beginning of a run to a halting state is the whole run. -/
theorem Run.nth_of_walks
    {machine : Machine} {word : String} {symbols : List Symbol}
    {count : Nat} {last : Situation}
    (written : machine.wordSymbols word = symbols)
    (walks : machine.Walks count ⟨machine.start, ⟨[], symbols⟩⟩ last)
    (halts : machine.isHalting last.state = true) :
    ∃ final : Configuration,
      ((begin machine word).nth count).1 = some final ∧
        ((begin machine word).nth (count + 1)).1 = none ∧
          last.Describes final := by
  have begins :
      Situation.Describes ⟨machine.start, ⟨[], symbols⟩⟩
        (machine.initial word) := by
    rw [← written]
    exact ⟨rfl, Tape.hasSides_ofSymbols (machine.wordSymbols word)⟩
  rcases walks (machine.initial word) begins with ⟨described, running⟩
  have yielded :
      ((begin machine word).nth count).1 =
        some (machine.course word count) := by
    rw [nth_begin_eq]
    exact Machine.yielded?_of_le (Machine.le_lastPlace_iff.mpr running)
  refine ⟨machine.course word count, yielded, ?_, described⟩
  rw [nth_begin_succ, yielded, Option.bind_some, Machine.successor?,
    Machine.course, described.1, if_pos halts]

end TapeMachine
