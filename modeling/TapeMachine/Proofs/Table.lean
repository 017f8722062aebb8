import Mathlib.Data.List.Perm.Basic
import TapeMachine.Proofs.Building
import TapeMachine.Proofs.Success
import TapeMachine.Table

/-!
# Building a machine fills a table

A machine keeps its rules as a list in which no situation occurs twice.  Filling
a table with the same rules is another way to look for a repeated situation, and
looking a rule up in the table another way to find it.  A rule that is added to
a table replaces none and counts as one more; from this follows that filling
stops where building fails, and that table and machine find the same rules.

Neither the success nor the rules found depend on the order of the rules.  The
rule that an error names does.
-/

namespace TapeMachine

namespace Table

/-! ## Adding one rule -/

@[simp]
theorem rule?_empty (state : String) (symbol : Symbol) :
    rule? ∅ state symbol = none := by
  simp [rule?, row]

@[simp]
theorem count_empty : count ∅ = 0 := by
  simp [count]

theorem row_insert
    (table : Table) (state other : String) (rules : Row) :
    row (table.insert state rules) other =
      if state = other then rules else table.row other := by
  simp [row, Std.HashMap.getD_insert]

/-- The number of rules for the states other than the given one. -/
def countElsewhere (table : Table) (state : String) : Nat :=
  ((table.toList.filter (¬ state == ·.1)).map fun (_, row) => row.size).foldr
    (· + ·) 0

theorem count_insert
    (table : Table) (state : String) (rules : Row) :
    count (table.insert state rules) =
      rules.size + table.countElsewhere state := by
  rw [count, (Std.HashMap.toList_insert_perm.map _).foldr_eq 0]
  rfl

theorem count_eq_add_countElsewhere (table : Table) (state : String) :
    table.count = (table.row state).size + table.countElsewhere state := by
  cases present : table[state]? with
  | none =>
      have allElsewhere :
          table.toList.filter (¬ state == ·.1) = table.toList := by
        rw [List.filter_eq_self]
        rintro ⟨other, rules⟩ member
        rw [Std.HashMap.mem_toList_iff_getElem?_eq_some] at member
        have different : state ≠ other := by
          rintro rfl
          rw [present] at member
          cases member
        simpa using different
      rw [countElsewhere, allElsewhere]
      simp [count, row, Std.HashMap.getD_eq_getD_getElem?, present]
  | some rules =>
      have sameTable : (table.insert state rules).Equiv table := by
        apply Std.HashMap.Equiv.of_forall_getElem?_eq
        intro other
        by_cases same : state = other
        · subst same
          simp [present]
        · simp [Std.HashMap.getElem?_insert, same]
      have isRow : table.row state = rules := by
        simp [row, Std.HashMap.getD_eq_getD_getElem?, present]
      rw [isRow, ← count_insert, count, count,
        (sameTable.toList_perm.map _).foldr_eq 0]

/-- A table holds some rules: it has no others, and counts each of them once. -/
structure Holds (table : Table) (rules : List Transition) : Prop where
  rule?_eq_some_iff (state : String) (symbol : Symbol) (rule : Transition) :
    table.rule? state symbol = some rule ↔
      rule ∈ rules ∧ rule.key = (state, symbol)
  count_eq : table.count = rules.length

theorem holds_empty : Holds ∅ [] where
  rule?_eq_some_iff := by simp
  count_eq := count_empty

theorem Holds.mem_row_iff
    {table : Table} {rules : List Transition}
    (holds : table.Holds rules) (rule : Transition) :
    rule.symbol ∈ table.row rule.state ↔ rule.key ∈ rules.map Transition.key := by
  rw [← Std.HashMap.isSome_getElem?_iff_mem, Option.isSome_iff_exists,
    List.mem_map]
  exact exists_congr (holds.rule?_eq_some_iff rule.state rule.symbol)

theorem rule?_insert
    (table : Table) (rule : Transition) (state : String) (symbol : Symbol) :
    rule?
        (table.insert rule.state
          ((table.row rule.state).insert rule.symbol rule))
        state symbol =
      if rule.key = (state, symbol) then some rule
      else table.rule? state symbol := by
  rw [rule?, row_insert]
  by_cases sameState : rule.state = state
  · subst sameState
    simp [rule?, Transition.key, Std.HashMap.getElem?_insert]
  · simp [rule?, Transition.key, sameState]

theorem Holds.add_of_repeated
    {table : Table} {rules : List Transition} {rule : Transition}
    (holds : table.Holds rules)
    (repeated : rule.key ∈ rules.map Transition.key) :
    table.add rule = .error rule :=
  if_pos ((holds.mem_row_iff rule).mpr repeated)

/-- A rule for a new situation is added to the others. -/
theorem Holds.exists_add
    {table : Table} {rules : List Transition} {rule : Transition}
    (holds : table.Holds rules)
    (fresh : rule.key ∉ rules.map Transition.key) :
    ∃ larger, table.add rule = .ok larger ∧ larger.Holds (rule :: rules) := by
  have freshInRow : rule.symbol ∉ table.row rule.state :=
    mt (holds.mem_row_iff rule).mp fresh
  refine ⟨_, if_neg freshInRow, ?_, ?_⟩
  · intro state symbol found
    rw [rule?_insert, List.mem_cons]
    by_cases fits : rule.key = (state, symbol)
    · rw [if_pos fits, Option.some_inj]
      constructor
      · rintro rfl
        exact ⟨Or.inl rfl, fits⟩
      · rintro ⟨isRule | member, sameKey⟩
        · exact isRule.symm
        · rw [fits, ← sameKey] at fresh
          exact (fresh (List.mem_map_of_mem member)).elim
    · rw [if_neg fits, holds.rule?_eq_some_iff]
      constructor
      · rintro ⟨member, sameKey⟩
        exact ⟨Or.inr member, sameKey⟩
      · rintro ⟨rfl | member, sameKey⟩
        · exact (fits sameKey).elim
        · exact ⟨member, sameKey⟩
  · have countBefore := table.count_eq_add_countElsewhere rule.state
    rw [holds.count_eq] at countBefore
    rw [count_insert, Std.HashMap.size_insert, if_neg freshInRow,
      List.length_cons]
    omega

/-! ## Adding rules in order -/

theorem Holds.of_perm
    {table : Table} {rules rules' : List Transition}
    (holds : table.Holds rules) (perm : rules.Perm rules') :
    table.Holds rules' where
  rule?_eq_some_iff state symbol rule := by
    rw [holds.rule?_eq_some_iff, perm.mem_iff]
  count_eq := by
    rw [holds.count_eq, perm.length_eq]

/--
Filling stops at the first rule that repeats a situation; without one, the table
holds all the rules at the end.
-/
theorem Holds.fill_cases
    {table : Table} {rules : List Transition}
    (holds : table.Holds rules) (more : List Transition) :
    (∃ rule, firstRepeat? (rules.map Transition.key) more = some rule ∧
        table.fill more = .error rule) ∨
      (firstRepeat? (rules.map Transition.key) more = none ∧
        ∃ filled, table.fill more = .ok filled ∧
          filled.Holds (more.reverse ++ rules)) := by
  induction more generalizing table rules with
  | nil =>
      exact Or.inr ⟨rfl, table, rfl, holds⟩
  | cons rule more induction =>
      simp only [firstRepeat?, fill, List.foldlM_cons]
      by_cases repeated : rule.key ∈ rules.map Transition.key
      · rw [if_pos repeated, holds.add_of_repeated repeated]
        exact Or.inl ⟨rule, rfl, rfl⟩
      · rcases holds.exists_add repeated with ⟨larger, added, holdsLarger⟩
        rw [if_neg repeated, added, List.reverse_cons, List.append_assoc]
        exact induction holdsLarger

theorem fill_eq_error_iff
    {rules : List Transition} {rule : Transition} :
    fill ∅ rules = .error rule ↔ firstRepeat? [] rules = some rule := by
  rcases holds_empty.fill_cases rules with
    ⟨first, repeated, filled⟩ | ⟨unrepeated, table, filled, -⟩
  · rw [filled, ← List.map_nil, repeated]
    simp
  · rw [filled, ← List.map_nil, unrepeated]
    simp

theorem holds_of_fill
    {rules : List Transition} {table : Table}
    (filled : fill ∅ rules = .ok table) :
    table.Holds rules := by
  rcases holds_empty.fill_cases rules with
    ⟨_, _, stopped⟩ | ⟨-, table', filled', holds⟩
  · rw [stopped] at filled
    cases filled
  · rw [filled'] at filled
    cases filled
    rw [List.append_nil] at holds
    exact holds.of_perm rules.reverse_perm

end Table

/-! ## Building -/

/--
What is built of some rules.  There is a machine if no situation is repeated, and
otherwise an error that names the first rule to repeat one, with its symbol as it
is shown.  Filling a table fails at the same rule.  A machine has all the rules,
and machine and table find for every situation the one rule that applies.
-/
structure Tabulates (shown : Symbol → Symbol) (rules : List Transition)
    (built : Except MachineError Machine) : Prop where
  succeeds_iff :
    (∃ machine, built = .ok machine) ↔ (rules.map Transition.key).Nodup
  fails_iff (error : MachineError) :
    built = .error error ↔
      ∃ before rule after, rules = before ++ rule :: after ∧
        (before.map Transition.key).Nodup ∧
          rule.key ∈ before.map Transition.key ∧
            Table.fill ∅ rules = .error rule ∧
              error = .duplicateTransition rule.state (shown rule.symbol)
  finds (machine : Machine) (isBuilt : built = .ok machine) :
    machine.rules.length = rules.length ∧
      ∃ table, Table.fill ∅ rules = .ok table ∧ table.count = rules.length ∧
        ∀ (state : String) (symbol : Symbol),
          table.rule? state symbol = machine.rule? state symbol ∧
            ∀ rule, machine.rule? state symbol = some rule ↔
              rule ∈ rules ∧ rule.key = (state, symbol)

/-- Two builds succeed or fail together, and built machines find the same rules. -/
def FindAlike (built built' : Except MachineError Machine) : Prop :=
  ((∃ machine, built = .ok machine) ↔ ∃ machine, built' = .ok machine) ∧
    ∀ machine machine', built = .ok machine → built' = .ok machine' →
      ∀ (state : String) (symbol : Symbol),
        machine.rule? state symbol = machine'.rule? state symbol

theorem tabulates_of_build
    {shown : Symbol → Symbol} {rules : List Transition}
    {built : Except MachineError Machine}
    (ofOk : ∀ machine, built = .ok machine → machine.rules = rules)
    (ofError :
      ∀ error, built = .error error ↔
        ∃ rule, firstRepeat? [] rules = some rule ∧
          error = .duplicateTransition rule.state (shown rule.symbol)) :
    Tabulates shown rules built where
  succeeds_iff := by
    constructor
    · rintro ⟨machine, isBuilt⟩
      rw [← ofOk machine isBuilt]
      exact machine.deterministic
    · intro distinct
      have unrepeated : firstRepeat? [] rules = none :=
        firstRepeat?_eq_none_iff.mpr ⟨distinct, by simp⟩
      cases isBuilt : built with
      | ok machine => exact ⟨machine, rfl⟩
      | error error =>
          rcases (ofError error).mp isBuilt with ⟨rule, repeated, -⟩
          rw [unrepeated] at repeated
          cases repeated
  fails_iff error := by
    rw [ofError]
    constructor
    · rintro ⟨rule, repeated, isError⟩
      rcases firstRepeat?_eq_some_iff.mp repeated with
        ⟨before, after, composed, unrepeated, again⟩
      exact
        ⟨before, rule, after, composed,
          (firstRepeat?_eq_none_iff.mp unrepeated).1,
          again.resolve_left List.not_mem_nil,
          Table.fill_eq_error_iff.mpr repeated, isError⟩
    · rintro ⟨-, rule, -, -, -, -, stopped, isError⟩
      exact ⟨rule, Table.fill_eq_error_iff.mp stopped, isError⟩
  finds machine isBuilt := by
    have sameRules := ofOk machine isBuilt
    subst sameRules
    refine ⟨rfl, ?_⟩
    cases filled : Table.fill ∅ machine.rules with
    | error rule =>
        have isError :=
          (ofError _).mpr ⟨rule, Table.fill_eq_error_iff.mp filled, rfl⟩
        rw [isBuilt] at isError
        cases isError
    | ok table =>
        have holds := Table.holds_of_fill filled
        refine ⟨table, rfl, holds.count_eq, fun state symbol => ⟨?_, ?_⟩⟩
        · apply Option.ext
          intro rule
          rw [holds.rule?_eq_some_iff, Machine.rule?_eq_some_iff]
        · exact fun rule => Machine.rule?_eq_some_iff

theorem Tabulates.findAlike
    {shown shown' : Symbol → Symbol} {rules rules' : List Transition}
    {built built' : Except MachineError Machine}
    (tabulates : Tabulates shown rules built)
    (tabulates' : Tabulates shown' rules' built')
    (perm : rules.Perm rules') :
    FindAlike built built' := by
  constructor
  · rw [tabulates.succeeds_iff, tabulates'.succeeds_iff]
    exact (perm.map _).nodup_iff
  · intro machine machine' isBuilt isBuilt' state symbol
    rcases tabulates.finds machine isBuilt with ⟨_, _, _, _, found⟩
    rcases tabulates'.finds machine' isBuilt' with ⟨_, _, _, _, found'⟩
    apply Option.ext
    intro rule
    rw [(found state symbol).2, (found' state symbol).2, perm.mem_iff]

theorem Machine.tabulates_build
    (start accept reject : String) (rules : List Transition) :
    Tabulates id rules (Machine.build start accept reject rules) := by
  apply tabulates_of_build
  · intro machine built
    exact (Machine.build_eq_ok_iff.mp built).2.2.2.2
  · intro error
    simp only [Machine.build_eq_error_iff, Machine.ofRules_eq_error_iff, id]

theorem Description.tabulates_build (description : Description) :
    Tabulates description.presented description.rules description.build := by
  apply tabulates_of_build
  · intro machine built
    exact (Description.build_eq_ok_iff.mp built).2.2.2.2
  · intro error
    simp only [Description.build_eq_error_iff,
      Machine.ofDescription_eq_error_iff, firstRepeat?_eq_some_iff,
      firstRepeat?_eq_none_iff]
    simp

/--
Building is a check for a repeated situation and a table of the rules, for rules
as they are given and for those of a description.  In which order the rules are
given matters neither for the success nor for the rules found.
-/
theorem build_is_check_and_table :
    (∀ (start accept reject : String) (rules : List Transition),
      Tabulates id rules (Machine.build start accept reject rules) ∧
      ∀ rules', rules.Perm rules' →
        FindAlike (Machine.build start accept reject rules)
          (Machine.build start accept reject rules')) ∧
    (∀ description : Description,
      Tabulates description.presented description.rules description.build ∧
      ∀ transitions', description.transitions.Perm transitions' →
        FindAlike description.build
          (Description.build
            { description with transitions := transitions' })) := by
  constructor
  · intro start accept reject rules
    have tabulates := Machine.tabulates_build start accept reject
    exact
      ⟨tabulates rules,
        fun rules' perm => (tabulates rules).findAlike (tabulates rules') perm⟩
  · intro description
    refine ⟨description.tabulates_build, fun transitions' perm => ?_⟩
    exact
      description.tabulates_build.findAlike
        (Description.tabulates_build
          { description with transitions := transitions' })
        (perm.map _)

/-- Rules for one state, the last of which reads the blank of the tape itself. -/
def threeRules : Description where
  start := "q"
  accept := "a"
  reject := "r"
  blank := 'B'
  transitions :=
    [⟨"q", 'B', "a", '1', .right⟩, ⟨"q", '1', "q", 'B', .left⟩,
      ⟨"q", '\x00', "r", '1', .stay⟩]

/-- As they are given no two rules share a situation; in the description two of them do. -/
theorem build_is_check_and_table_threeRules :
    (threeRules.transitions.Perm threeRules.transitions.reverse ∧
      (∃ machine,
        Machine.build "q" "a" "r" threeRules.transitions = .ok machine) ∧
      FindAlike (Machine.build "q" "a" "r" threeRules.transitions)
        (Machine.build "q" "a" "r" threeRules.transitions.reverse)) ∧
    threeRules.build = .error (.duplicateTransition "q" 'B') ∧
    FindAlike threeRules.build
      (Description.build
        { threeRules with transitions := threeRules.transitions.reverse }) := by
  have perm := threeRules.transitions.reverse_perm.symm
  have ofRules := build_is_check_and_table.1 "q" "a" "r" threeRules.transitions
  have ofDescription := build_is_check_and_table.2 threeRules
  refine
    ⟨⟨perm, ofRules.1.succeeds_iff.mpr (by decide), ofRules.2 _ perm⟩, ?_,
      ofDescription.2 _ perm⟩
  rw [ofDescription.1.fails_iff]
  exact
    ⟨threeRules.rules.take 2, ⟨"q", '\x00', "r", '1', .stay⟩, [], by decide,
      by decide, by decide,
      Table.fill_eq_error_iff.mpr (by decide), rfl⟩

end TapeMachine
