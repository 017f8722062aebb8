import TapeMachine.Proofs.Building

/-!
# The symbols of a description

Building a machine puts the blank of the tape in place of the symbol that stands
for it on paper.  Two symbols of a description become one on the tape only if
one of them is the blank of the tape already.  Where none is, two transitions
that collide on the tape are written for one situation as well.
-/

namespace TapeMachine

/-- The symbols a transition reads and writes. -/
def Transition.symbols (transition : Transition) : List Symbol :=
  [transition.symbol, transition.write]

/-- The blank of a description, and what its transitions read and write. -/
def Description.symbols (description : Description) : List Symbol :=
  description.blank ::
    description.transitions.flatMap Transition.symbols

namespace Description

theorem symbol_mem_symbols
    {description : Description} {transition : Transition}
    (member : transition ∈ description.transitions) :
    transition.symbol ∈ description.symbols := by
  refine List.mem_cons_of_mem _ (List.mem_flatMap.mpr ⟨transition, member, ?_⟩)
  exact List.mem_cons_self

theorem write_mem_symbols
    {description : Description} {transition : Transition}
    (member : transition ∈ description.transitions) :
    transition.write ∈ description.symbols := by
  refine List.mem_cons_of_mem _ (List.mem_flatMap.mpr ⟨transition, member, ?_⟩)
  exact List.mem_cons_of_mem _ List.mem_cons_self

theorem presented_internal
    {description : Description} {symbol : Symbol}
    (ink : symbol ≠ Symbol.blank) :
    description.presented (description.internal symbol) = symbol := by
  unfold internal presented
  split
  · next isBlank => rw [Symbol.present_blank, isBlank]
  · exact Symbol.present_of_ne_blank ink

theorem eq_of_internal_eq
    {description : Description} {first second : Symbol}
    (firstInk : first ≠ Symbol.blank) (secondInk : second ≠ Symbol.blank)
    (merged : description.internal first = description.internal second) :
    first = second := by
  have shown := congrArg description.presented merged
  rwa [presented_internal firstInk, presented_internal secondInk] at shown

/--
If no symbol of a description is the blank of the tape, a repeated situation is
one that two of its transitions are written for.
-/
theorem two_le_count_of_build
    {description : Description} {state : String} {symbol : Symbol}
    (ink : Symbol.blank ∉ description.symbols)
    (failed :
      description.build = .error (.duplicateTransition state symbol)) :
    2 ≤ (description.transitions.map Transition.key).count (state, symbol) := by
  rcases build_eq_error_iff.mp failed with ⟨rule, repeated, isError⟩
  rcases Machine.ofDescription_eq_error_iff.mp repeated with
    ⟨rulesBefore, rulesAfter, composed, -, again⟩
  rcases List.map_eq_append_iff.mp composed with
    ⟨before, others, isTransitions, rfl, isRest⟩
  rcases List.map_eq_cons_iff.mp isRest with
    ⟨second, after, rfl, rfl, -⟩
  simp only [List.map_map, List.mem_map, Function.comp_apply] at again
  rcases again with ⟨first, memberBefore, sameKey⟩
  have inkOf (transition : Transition)
      (member : transition ∈ description.transitions) :
      transition.symbol ≠ Symbol.blank := by
    intro isBlank
    exact ink (isBlank ▸ symbol_mem_symbols member)
  have firstInk := inkOf first (by simp [isTransitions, memberBefore])
  have secondInk := inkOf second (by simp [isTransitions])
  have same : first.key = second.key := by
    rcases Prod.mk.inj sameKey with ⟨sameState, merged⟩
    exact Prod.ext sameState (eq_of_internal_eq firstInk secondInk merged)
  have written : (state, symbol) = second.key := by
    rcases MachineError.duplicateTransition.inj isError with ⟨rfl, rfl⟩
    exact Prod.ext rfl (presented_internal secondInk)
  have fromBefore :
      1 ≤ (before.map Transition.key).count second.key :=
    List.one_le_count_iff.mpr (same ▸ List.mem_map_of_mem memberBefore)
  rw [written, isTransitions, List.map_append, List.map_cons,
    List.count_append, List.count_cons_self]
  omega

end Description

end TapeMachine
