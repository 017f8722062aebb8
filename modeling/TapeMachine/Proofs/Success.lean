import Mathlib.Data.List.Forall2

/-!
# Successful computations

A computation in stages succeeds when each of its stages does, and one over a
list succeeds when it does so for every element.  A success is taken apart by
these equations into the successes it consists of.
-/

namespace TapeMachine

theorem bind_eq_ok_iff
    {Error Value Result : Type}
    {first : Except Error Value} {then_ : Value → Except Error Result}
    {result : Result} :
    (first >>= then_) = .ok result ↔
      ∃ value, first = .ok value ∧ then_ value = .ok result := by
  cases first with
  | error e => simp [bind, Except.bind]
  | ok value => simp [bind, Except.bind]

theorem bind_eq_error_iff
    {Error Value Result : Type}
    {first : Except Error Value} {then_ : Value → Except Error Result}
    {error : Error} :
    (first >>= then_) = .error error ↔
      first = .error error ∨
        ∃ value, first = .ok value ∧ then_ value = .error error := by
  cases first with
  | error e => simp [bind, Except.bind]
  | ok value => simp [bind, Except.bind]

theorem mapError_bind
    {Error Error' Value Value' : Type} (onError : Error → Error')
    (first : Except Error Value) (next : Value → Except Error Value') :
    (first >>= next).mapError onError =
      first.mapError onError >>= fun value => (next value).mapError onError := by
  cases first <;> rfl

theorem map_eq_ok_iff
    {Error Value Result : Type}
    {first : Except Error Value} {make : Value → Result} {result : Result} :
    first.map make = .ok result ↔
      ∃ value, first = .ok value ∧ make value = result := by
  cases first with
  | error e => simp [Except.map]
  | ok value => simp [Except.map]

theorem map_eq_error_iff
    {Error Value Result : Type}
    {first : Except Error Value} {make : Value → Result} {error : Error} :
    first.map make = .error error ↔ first = .error error := by
  cases first with
  | error e => simp [Except.map]
  | ok value => simp [Except.map]

theorem mapM_eq_ok_iff
    {Error Value Result : Type}
    {compute : Value → Except Error Result}
    {values : List Value} {results : List Result} :
    values.mapM compute = .ok results ↔
      List.Forall₂ (fun value result => compute value = .ok result)
        values results := by
  induction values generalizing results with
  | nil => simp [pure, Except.pure, eq_comm]
  | cons value values induction =>
      rw [List.mapM_cons, bind_eq_ok_iff, List.forall₂_cons_left_iff]
      constructor
      · rintro ⟨result, first, rest⟩
        rcases bind_eq_ok_iff.mp rest with ⟨others, computed, made⟩
        cases made
        exact ⟨result, others, first, induction.mp computed, rfl⟩
      · rintro ⟨result, others, first, computed, rfl⟩
        refine ⟨result, first, ?_⟩
        exact bind_eq_ok_iff.mpr ⟨others, induction.mpr computed, rfl⟩

/-- What is related to a list element by element has each element from one of the list. -/
theorem exists_mem_of_forall₂
    {Left Right : Type} {Related : Left → Right → Prop}
    {lefts : List Left} {rights : List Right} {right : Right}
    (related : List.Forall₂ Related lefts rights)
    (member : right ∈ rights) :
    ∃ left ∈ lefts, Related left right := by
  induction related with
  | nil => cases member
  | cons first others induction =>
      rcases List.mem_cons.mp member with rfl | member
      · exact ⟨_, List.mem_cons_self, first⟩
      · rcases induction member with ⟨left, memberLeft, relatedLeft⟩
        exact ⟨left, List.mem_cons_of_mem _ memberLeft, relatedLeft⟩

end TapeMachine
