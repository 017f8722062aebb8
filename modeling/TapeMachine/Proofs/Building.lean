import TapeMachine.Building

/-!
# What a built machine consists of

A machine is its three states, its blank, and rules without a repeated
situation.  Building therefore leaves no choice: it succeeds with exactly one
machine, the one whose parts are those it was asked to have, or it fails at the
first rule whose situation was there before.
-/

namespace TapeMachine

theorem Machine.ofRules_eq_ok_iff
    {start accept reject : String}
    {rules : List Transition} {machine : Machine} :
    Machine.ofRules start accept reject rules = .ok machine ↔
      machine.start = start ∧ machine.accept = accept ∧
        machine.reject = reject ∧ machine.blank? = none ∧
          machine.rules = rules := by
  unfold Machine.ofRules
  split
  · next rule repeated =>
      constructor
      · intro built
        cases built
      · rintro ⟨-, -, -, -, rfl⟩
        have unrepeated : firstRepeat? [] machine.rules = none :=
          firstRepeat?_eq_none_iff.2 ⟨machine.deterministic, by simp⟩
        rw [unrepeated] at repeated
        cases repeated
  · next unrepeated =>
      constructor
      · intro built
        cases built
        exact ⟨rfl, rfl, rfl, rfl, rfl⟩
      · rintro ⟨rfl, rfl, rfl, noBlank, rfl⟩
        cases machine
        simp_all

theorem Machine.build_eq_ok_iff
    {start accept reject : String}
    {rules : List Transition} {machine : Machine} :
    Machine.build start accept reject rules = .ok machine ↔
      machine.start = start ∧ machine.accept = accept ∧
        machine.reject = reject ∧ machine.blank? = none ∧
          machine.rules = rules := by
  rw [← Machine.ofRules_eq_ok_iff]
  unfold Machine.build
  cases Machine.ofRules start accept reject rules <;> simp

theorem Machine.ofDescription_eq_ok_iff
    {description : Description} {machine : Machine} :
    Machine.ofDescription description = .ok machine ↔
      machine.start = description.start ∧
        machine.accept = description.accept ∧
          machine.reject = description.reject ∧
            machine.blank? = some description.blank ∧
              machine.rules = description.rules := by
  unfold Machine.ofDescription
  cases built : Machine.ofRules description.start description.accept
      description.reject description.rules with
  | error rule =>
      constructor
      · intro built'
        cases built'
      · rintro ⟨isStart, isAccept, isReject, -, isRules⟩
        have built' :
            Machine.ofRules description.start description.accept
                description.reject description.rules =
              .ok { machine with blank? := none } :=
          Machine.ofRules_eq_ok_iff.2
            ⟨isStart, isAccept, isReject, rfl, isRules⟩
        rw [built] at built'
        cases built'
  | ok plain =>
      rcases Machine.ofRules_eq_ok_iff.1 built with
        ⟨isStart, isAccept, isReject, -, isRules⟩
      constructor
      · intro built'
        cases built'
        exact ⟨isStart, isAccept, isReject, rfl, isRules⟩
      · rintro ⟨isStart', isAccept', isReject', isBlank, isRules'⟩
        cases plain
        cases machine
        simp_all [bind, Except.bind, pure, Except.pure]

theorem Description.build_eq_ok_iff
    {description : Description} {machine : Machine} :
    description.build = .ok machine ↔
      machine.start = description.start ∧
        machine.accept = description.accept ∧
          machine.reject = description.reject ∧
            machine.blank? = some description.blank ∧
              machine.rules = description.rules := by
  rw [← Machine.ofDescription_eq_ok_iff]
  unfold Description.build
  cases Machine.ofDescription description <;> simp

/-! ## Why building fails -/

/-- The rule found is the first one whose situation was there before. -/
theorem firstRepeat?_eq_some_iff
    {seen : List (String × Symbol)} {rules : List Transition}
    {rule : Transition} :
    firstRepeat? seen rules = some rule ↔
      ∃ before after, rules = before ++ rule :: after ∧
        firstRepeat? seen before = none ∧
          (rule.key ∈ seen ∨ rule.key ∈ before.map Transition.key) := by
  induction rules generalizing seen with
  | nil => simp [firstRepeat?]
  | cons first rest induction =>
      by_cases taken : first.key ∈ seen
      · constructor
        · intro found
          rw [firstRepeat?, if_pos taken] at found
          cases found
          exact ⟨[], rest, rfl, rfl, Or.inl taken⟩
        · rintro ⟨before, after, composed, unrepeated, -⟩
          rw [firstRepeat?, if_pos taken]
          cases before with
          | nil =>
              cases composed
              rfl
          | cons other before =>
              cases composed
              rw [firstRepeat?, if_pos taken] at unrepeated
              cases unrepeated
      · rw [firstRepeat?, if_neg taken, induction]
        constructor
        · rintro ⟨before, after, rfl, unrepeated, again⟩
          refine ⟨first :: before, after, rfl, ?_, ?_⟩
          · rw [firstRepeat?, if_neg taken, unrepeated]
          · simpa [or_assoc, or_left_comm] using again
        · rintro ⟨before, after, composed, unrepeated, again⟩
          cases before with
          | nil =>
              cases composed
              simp [taken] at again
          | cons other before =>
              cases composed
              rw [firstRepeat?, if_neg taken] at unrepeated
              refine ⟨before, after, rfl, unrepeated, ?_⟩
              simpa [or_assoc, or_left_comm] using again

theorem Machine.ofRules_eq_error_iff
    {start accept reject : String}
    {rules : List Transition} {rule : Transition} :
    Machine.ofRules start accept reject rules = .error rule ↔
      firstRepeat? [] rules = some rule := by
  unfold Machine.ofRules
  split
  · next first repeated => simp [repeated]
  · next unrepeated => simp [unrepeated]

/-- No machine is made where a situation occurs again, and the first rule to repeat one is named. -/
theorem Machine.ofDescription_eq_error_iff
    {description : Description} {rule : Transition} :
    Machine.ofDescription description = .error rule ↔
      ∃ before after,
        description.rules = before ++ rule :: after ∧
          (before.map Transition.key).Nodup ∧
            rule.key ∈ before.map Transition.key := by
  have sameRule :
      Machine.ofDescription description = .error rule ↔
        Machine.ofRules description.start description.accept
          description.reject description.rules = .error rule := by
    unfold Machine.ofDescription
    cases Machine.ofRules description.start description.accept
        description.reject description.rules <;>
      simp [bind, Except.bind, pure, Except.pure]
  rw [sameRule, Machine.ofRules_eq_error_iff, firstRepeat?_eq_some_iff]
  simp [firstRepeat?_eq_none_iff]

theorem Machine.build_eq_error_iff
    {start accept reject : String}
    {rules : List Transition} {error : MachineError} :
    Machine.build start accept reject rules = .error error ↔
      ∃ rule, Machine.ofRules start accept reject rules = .error rule ∧
        error = .duplicateTransition rule.state rule.symbol := by
  unfold Machine.build
  cases Machine.ofRules start accept reject rules <;> simp [eq_comm]

theorem Description.build_eq_error_iff
    {description : Description} {error : MachineError} :
    description.build = .error error ↔
      ∃ rule, Machine.ofDescription description = .error rule ∧
        error =
          .duplicateTransition rule.state
            (description.presented rule.symbol) := by
  unfold Description.build
  cases Machine.ofDescription description <;> simp [eq_comm]

end TapeMachine
