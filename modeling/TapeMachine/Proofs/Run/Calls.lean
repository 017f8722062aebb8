import TapeMachine.Proofs.Run.Course

/-!
# A run is one sequence, however it is driven

A run can be asked for its next configuration, for one further on, and for the
one it yielded last, and it can be begun again on another word.  Each of these
calls leaves behind a run in some stage.

All that matters of the calls so far is the latest word and how often a
configuration was asked for since: the run is then the one that was asked for
its next configuration so often, and its answers are read off the course of the
machine on that word.  Asking again after the end changes nothing, and neither
does looking at the configuration yielded last.
-/

namespace TapeMachine

namespace Run

/-- A call on a run. -/
inductive Call where
  | next
  | nth (count : Nat)
  | current
  | restart (word : String)
  deriving DecidableEq

/-- The run after a call. -/
def follow (run : Run) : Call → Run
  | .next => run.next.2
  | .nth count => (run.nth count).2
  | .current => run
  | .restart word => run.restart word

/-- The run after some calls, one after the other. -/
def followAll (run : Run) (calls : List Call) : Run :=
  calls.foldl follow run

@[simp]
theorem followAll_cons (run : Run) (call : Call) (calls : List Call) :
    run.followAll (call :: calls) = (run.follow call).followAll calls :=
  rfl

/-! ## Counting -/

/-- The latest word, and how often a configuration was asked for since. -/
structure Tally where
  word : String
  asked : Nat

/--
How often a configuration was asked for after asking up to `count + 1` times
more, but not again once there was none.
-/
noncomputable def askedByNth (machine : Machine) (word : String) (asked : Nat) :
    Nat → Nat
  | 0 => asked + 1
  | count + 1 =>
    if (machine.yielded? word asked).isSome then
      askedByNth machine word (asked + 1) count
    else asked + 1

namespace Tally

/-- The tally after a call. -/
noncomputable def follow (machine : Machine) (tally : Tally) : Call → Tally
  | .next => { tally with asked := tally.asked + 1 }
  | .nth count =>
    { tally with asked := askedByNth machine tally.word tally.asked count }
  | .current => tally
  | .restart word => { word, asked := 0 }

/-- The tally after some calls, one after the other. -/
noncomputable def followAll
    (machine : Machine) (tally : Tally) (calls : List Call) : Tally :=
  calls.foldl (follow machine) tally

end Tally

/-! ## The run after so many questions -/

/-- The run of a machine on a word after asking for the next configuration so often. -/
def afterAsking (machine : Machine) (word : String) (asked : Nat) : Run :=
  (fun run => run.next.2)^[asked] (begin machine word)

variable
    (machine : Machine)
    (word : String)

theorem afterAsking_succ (asked : Nat) :
    afterAsking machine word (asked + 1) =
      (afterAsking machine word asked).next.2 :=
  Function.iterate_succ_apply' _ asked (begin machine word)

/-- The answers of a run continue those it would have given from its beginning. -/
theorem nth_afterAsking (asked count : Nat) :
    (afterAsking machine word asked).nth count =
      (begin machine word).nth (asked + count) := by
  rw [nth_eq_next_iterate, nth_eq_next_iterate, afterAsking,
    ← Function.iterate_add_apply, Nat.add_comm]

theorem next_afterAsking (asked : Nat) :
    (afterAsking machine word asked).next.1 =
      machine.yielded? word asked := by
  have first := nth_afterAsking machine word asked 0
  rw [Nat.add_zero] at first
  rw [← nth_begin_eq, ← first]
  rfl

theorem snd_nth_afterAsking (asked count : Nat) :
    ((afterAsking machine word asked).nth count).2 =
      afterAsking machine word (asked + count + 1) := by
  rw [nth_afterAsking, nth_eq_next_iterate, afterAsking_succ]
  rfl

theorem next_snd_of_next_fst_eq_none
    {run : Run}
    (ended : run.next.1 = none) :
    run.next.2 = run := by
  by_cases finished : run.isOver = true
  · simp [next, finished]
  · simp [next, finished] at ended

/-- Asking in vain changes nothing. -/
theorem afterAsking_add_of_ended
    {asked : Nat}
    (ended : machine.yielded? word asked = none) (more : Nat) :
    afterAsking machine word (asked + more) =
      afterAsking machine word asked := by
  induction more with
  | zero => rfl
  | succ more induction =>
      rw [← Nat.add_assoc, afterAsking_succ, induction]
      apply next_snd_of_next_fst_eq_none
      rw [next_afterAsking, ended]

theorem afterAsking_askedByNth (asked count : Nat) :
    afterAsking machine word (askedByNth machine word asked count) =
      afterAsking machine word (asked + count + 1) := by
  induction count generalizing asked with
  | zero => rfl
  | succ count induction =>
      cases yielded : machine.yielded? word asked with
      | none =>
          simp only [askedByNth, yielded, Option.isSome_none,
            Bool.false_eq_true, if_false]
          rw [afterAsking_add_of_ended machine word yielded,
            Nat.add_assoc asked,
            afterAsking_add_of_ended machine word yielded]
      | some configuration =>
          simp only [askedByNth, yielded, Option.isSome_some, if_true]
          rw [induction]
          congr 1
          omega

theorem current?_next (run : Run) :
    run.next.2.current? = run.next.1.or run.current? := by
  by_cases finished : run.isOver = true
  · simp [next, finished]
  · simp [next, finished, current?]

/-- The configuration yielded last is the one asked for last, or the last one of all. -/
theorem current?_afterAsking (asked : Nat) :
    (afterAsking machine word asked).current? =
      if asked = 0 then none
      else
        some
          (machine.course word
            (min ((asked - 1 : Nat) : ℕ∞) (machine.lastPlace word)).toNat) := by
  induction asked with
  | zero => rfl
  | succ asked induction =>
      rw [afterAsking_succ, current?_next, next_afterAsking, induction,
        if_neg asked.succ_ne_zero, Nat.add_sub_cancel]
      by_cases within : (asked : ℕ∞) ≤ machine.lastPlace word
      · rw [Machine.yielded?_of_le within, min_eq_left within]
        rfl
      · have ended : machine.lastPlace word < asked := not_le.mp within
        rw [Machine.yielded?_eq_none_iff.mpr ended, Option.none_or,
          min_eq_right ended.le]
        cases asked with
        | zero => exact (not_lt_zero ended).elim
        | succ before =>
            have endedBefore : machine.lastPlace word ≤ before :=
              Order.le_of_lt_add_one ended
            rw [if_neg before.succ_ne_zero, Nat.add_sub_cancel,
              min_eq_right endedBefore]

/-! ## The run after some calls -/

@[simp]
theorem machine_next (run : Run) :
    run.next.2.machine = run.machine := by
  by_cases finished : run.isOver = true
  · simp [next, finished]
  · simp [next, finished]

@[simp]
theorem machine_afterAsking (asked : Nat) :
    (afterAsking machine word asked).machine = machine := by
  induction asked with
  | zero => rfl
  | succ asked induction =>
      rw [afterAsking_succ, machine_next, induction]

theorem follow_afterAsking (tally : Tally) (call : Call) :
    (afterAsking machine tally.word tally.asked).follow call =
      afterAsking machine (tally.follow machine call).word
        (tally.follow machine call).asked := by
  cases call with
  | next => exact (afterAsking_succ machine tally.word tally.asked).symm
  | nth count =>
      exact
        (snd_nth_afterAsking machine tally.word tally.asked count).trans
          (afterAsking_askedByNth machine tally.word tally.asked count).symm
  | current => rfl
  | restart word =>
      simp only [follow, restart, machine_afterAsking]
      rfl

theorem followAll_afterAsking (tally : Tally) (calls : List Call) :
    (afterAsking machine tally.word tally.asked).followAll calls =
      afterAsking machine (tally.followAll machine calls).word
        (tally.followAll machine calls).asked := by
  induction calls generalizing tally with
  | nil => rfl
  | cons call calls induction =>
      rw [followAll_cons, follow_afterAsking, induction]
      rfl

theorem followAll_begin (calls : List Call) :
    (begin machine word).followAll calls =
      afterAsking machine (Tally.followAll machine ⟨word, 0⟩ calls).word
        (Tally.followAll machine ⟨word, 0⟩ calls).asked :=
  followAll_afterAsking machine ⟨word, 0⟩ calls

/-! ## The end of a run -/

theorem yielded?_eq_none_of_le
    {machine : Machine} {word : String} {place later : Nat}
    (ended : machine.yielded? word place = none)
    (ordered : place ≤ later) :
    machine.yielded? word later = none := by
  rw [Machine.yielded?_eq_none_iff] at ended ⊢
  exact ended.trans_le (ENat.natCast_le_natCast.mpr ordered)

theorem lt_askedByNth (asked count : Nat) :
    asked < askedByNth machine word asked count := by
  induction count generalizing asked with
  | zero => exact asked.lt_succ_self
  | succ count induction =>
      rw [askedByNth]
      split
      · exact asked.lt_succ_self.trans (induction (asked + 1))
      · exact asked.lt_succ_self

/-- A call that begins no other run. -/
def Call.Continues (call : Call) : Prop :=
  ∀ word : String, call ≠ .restart word

theorem Tally.follow_of_continues
    (tally : Tally) {call : Call}
    (continues : call.Continues) :
    (tally.follow machine call).word = tally.word ∧
      tally.asked ≤ (tally.follow machine call).asked := by
  cases call with
  | next => exact ⟨rfl, Nat.le_succ _⟩
  | nth count =>
      exact ⟨rfl, (lt_askedByNth machine tally.word tally.asked count).le⟩
  | current => exact ⟨rfl, le_rfl⟩
  | restart word => exact (continues word rfl).elim

theorem Tally.followAll_of_continues
    (tally : Tally) {calls : List Call}
    (continues : ∀ call ∈ calls, call.Continues) :
    (tally.followAll machine calls).word = tally.word ∧
      tally.asked ≤ (tally.followAll machine calls).asked := by
  induction calls generalizing tally with
  | nil => exact ⟨rfl, le_rfl⟩
  | cons call calls induction =>
      rw [List.forall_mem_cons] at continues
      rcases tally.follow_of_continues machine continues.1 with
        ⟨sameWord, atLeast⟩
      rcases induction (tally.follow machine call) continues.2 with
        ⟨sameWord', atLeast'⟩
      exact ⟨sameWord'.trans sameWord, atLeast.trans atLeast'⟩

/-- A run that has nothing to yield any more. -/
def IsSpent (run : Run) : Prop :=
  run.next.1 = none ∧ ∀ count : Nat, (run.nth count).1 = none

theorem isSpent_afterAsking
    {machine : Machine} {word : String} {asked : Nat}
    (ended : machine.yielded? word asked = none) :
    (afterAsking machine word asked).IsSpent := by
  refine ⟨(next_afterAsking machine word asked).trans ended, ?_⟩
  intro count
  rw [nth_afterAsking, nth_begin_eq]
  exact yielded?_eq_none_of_le ended (Nat.le_add_right asked count)

/-- After the end, calls that begin no other run yield nothing. -/
theorem isSpent_followAll
    {machine : Machine} {word : String} {asked : Nat} {calls : List Call}
    (ended : machine.yielded? word asked = none)
    (continues : ∀ call ∈ calls, call.Continues) :
    ((afterAsking machine word asked).followAll calls).IsSpent := by
  have followed := followAll_afterAsking machine ⟨word, asked⟩ calls
  rcases Tally.followAll_of_continues machine ⟨word, asked⟩ continues with
    ⟨sameWord, atLeast⟩
  rw [sameWord] at followed
  rw [followed]
  exact isSpent_afterAsking (yielded?_eq_none_of_le ended atLeast)

/-! ## What a run yields -/

theorem take_afterAsking (count asked : Nat) :
    ((afterAsking machine word asked).take count).1 =
      (List.range' asked count).filterMap (machine.yielded? word) := by
  induction count generalizing asked with
  | zero => rfl
  | succ count induction =>
      have first := next_afterAsking machine word asked
      have later := afterAsking_succ machine word asked
      by_cases finished : (afterAsking machine word asked).isOver = true
      · simp only [next, finished, if_true] at first
        have nothing :
            (List.range' asked (count + 1)).filterMap
              (machine.yielded? word) = [] := by
          rw [List.filterMap_eq_nil_iff]
          intro place member
          exact
            yielded?_eq_none_of_le first.symm
              (List.mem_range'_1.mp member).1
        simp [take, finished, nothing]
      · simp only [next, finished, Bool.false_eq_true, if_false]
          at first later
        rw [List.range'_succ, List.filterMap_cons_some first.symm,
          ← induction (asked + 1), later]
        simp [take, finished]

theorem take_begin (count : Nat) :
    ((begin machine word).take count).1 =
      (List.range count).filterMap fun place =>
        ((begin machine word).nth place).1 := by
  simp only [nth_begin_eq, List.range_eq_range']
  exact take_afterAsking machine word count 0

/-- Looking at the configuration yielded last can be left out. -/
theorem followAll_filter_current (run : Run) (calls : List Call) :
    run.followAll (calls.filter (· ≠ .current)) = run.followAll calls := by
  induction calls generalizing run with
  | nil => rfl
  | cons call calls induction =>
      by_cases looks : call = .current
      · subst looks
        exact induction run
      · rw [List.filter_cons_of_pos (by simpa using looks), followAll_cons,
          followAll_cons, induction]

/-- A run answers as one that was asked for its next configuration so often. -/
structure AnswersFrom
    (run : Run) (machine : Machine) (tally : Tally) : Prop where
  next : run.next.1 = machine.yielded? tally.word tally.asked
  nth : ∀ count : Nat,
    (run.nth count).1 = machine.yielded? tally.word (tally.asked + count)
  current : run.current? =
    if tally.asked = 0 then none
    else
      some
        (machine.course tally.word
          (min ((tally.asked - 1 : Nat) : ℕ∞)
            (machine.lastPlace tally.word)).toNat)

/--
After any calls, a run answers as one sequence of configurations demands, from
the place given by the tally of the calls.  Once it yields nothing it yields
nothing more until it is begun again, and looking at the configuration yielded
last makes no difference.  The sequence is the course of the machine up to its
last place, and of it only the configuration at that place halts.
-/
theorem calls_follow_one_sequence
    (machine : Machine) (word : String) (calls : List Call) :
    ((begin machine word).followAll calls).AnswersFrom machine
        (Tally.followAll machine { word, asked := 0 } calls) ∧
    (∀ later : List Call, (∀ call ∈ later, call.Continues) →
      (((begin machine word).followAll calls).next.1 = none →
        (((begin machine word).followAll calls).next.2.followAll
          later).IsSpent) ∧
      ∀ count : Nat,
        (((begin machine word).followAll calls).nth count).1 = none →
          ((((begin machine word).followAll calls).nth count).2.followAll
            later).IsSpent) ∧
    (begin machine word).followAll (calls.filter (· ≠ .current)) =
      (begin machine word).followAll calls ∧
    (∀ count : Nat,
      ((begin machine word).take count).1 =
        (List.range count).filterMap (machine.yielded? word)) ∧
    ∀ place : Nat, (place : ℕ∞) ≤ machine.lastPlace word →
      (machine.isHalting (machine.course word place).state = true ↔
        (place : ℕ∞) = machine.lastPlace word) := by
  refine ⟨?_, ?_, ?_, ?_, fun place => Machine.isHalting_course_iff⟩
  · rw [followAll_begin]
    generalize Tally.followAll machine ⟨word, 0⟩ calls = tally
    exact
      { next := next_afterAsking machine tally.word tally.asked
        nth := fun count => by rw [nth_afterAsking, nth_begin_eq]
        current := current?_afterAsking machine tally.word tally.asked }
  · intro later continues
    rw [followAll_begin]
    generalize Tally.followAll machine ⟨word, 0⟩ calls = tally
    constructor
    · intro ended
      rw [next_afterAsking] at ended
      rw [← afterAsking_succ]
      exact
        isSpent_followAll
          (yielded?_eq_none_of_le ended (Nat.le_succ _)) continues
    · intro count ended
      rw [nth_afterAsking, nth_begin_eq] at ended
      rw [snd_nth_afterAsking]
      exact
        isSpent_followAll
          (yielded?_eq_none_of_le ended (Nat.le_succ _)) continues
  · exact followAll_filter_current (begin machine word) calls
  · intro count
    rw [List.range_eq_range']
    exact take_afterAsking machine word count 0

end Run

end TapeMachine
