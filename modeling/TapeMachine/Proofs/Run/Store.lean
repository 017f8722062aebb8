import TapeMachine.Proofs.Run.Course
import TapeMachine.Proofs.Tape.Store

/-!
# The store during a run

A step either leaves the tape alone or writes and then moves, so the head is
always near the store, and no step adds more than one cell.  A run therefore
stores as many cells as its word has symbols, and at most one more for each
step made.
-/

namespace TapeMachine

namespace Machine

theorem tape_step_eq_or (machine : Machine) (configuration : Configuration) :
    (machine.step configuration).tape = configuration.tape ∨
      ∃ (symbol : Symbol) (direction : Direction),
        (machine.step configuration).tape =
          configuration.tape.apply symbol direction := by
  rcases configuration with ⟨state, tape⟩
  simp only [step]
  split
  · next rule applies => exact Or.inr ⟨rule.write, rule.direction, rfl⟩
  · exact Or.inl rfl

/-- A word puts as many symbols on the tape as it has. -/
@[simp]
theorem length_wordSymbols (machine : Machine) (word : String) :
    (machine.wordSymbols word).length = word.length := by
  rw [wordSymbols, ← String.length_toList]
  split
  · rfl
  · exact List.length_map _

section Course

variable
    (machine : Machine)
    (word : String)
    (place : Nat)

theorem headIsNear_course : (machine.course word place).tape.HeadIsNear := by
  induction place with
  | zero => exact Tape.headIsNear_ofSymbols _
  | succ place induction =>
      rw [course_succ]
      rcases machine.tape_step_eq_or (machine.course word place) with
        stays | ⟨symbol, direction, applied⟩
      · rwa [stays]
      · rw [applied]
        exact induction.apply symbol direction

theorem storedLength_course :
    word.length ≤ (machine.course word place).tape.storedLength ∧
      (machine.course word place).tape.storedLength ≤ word.length + place := by
  induction place with
  | zero => simp [initial]
  | succ place induction =>
      rw [course_succ]
      rcases machine.tape_step_eq_or (machine.course word place) with
        stays | ⟨symbol, direction, applied⟩
      · rw [stays]
        omega
      · have grows :=
          (machine.course word place).tape.storedLength_le_act
            (.apply symbol direction)
        have atMost :=
          (machine.headIsNear_course word place).storedLength_apply_le
            symbol direction
        rw [applied]
        change _ ≤ (Tape.apply _ symbol direction).storedLength at grows
        omega

end Course

end Machine

namespace Tape

/--
The store holds exactly the written span.  Whatever is done to a tape with some
symbols or a word, the stored length is that of the least span of these symbols
and of all positions written to.  A write always comes to an end inside the
store, the store never shrinks, and movements leave it alone, as does reading,
which makes no tape.

Where each movement follows a write, every operation adds one cell at most and
leaves the head in the store or right beside it; so a run that has made so many
steps stores at most so many cells more than its word has symbols.
-/
theorem store_is_written_span :
    (∀ (symbols : List Symbol) (operations : List Operation),
      ((ofSymbols symbols).perform operations).StoresSpan symbols.length
        ((InfiniteTape.ofSymbols symbols).written operations)) ∧
    (∀ (word : String) (operations : List Operation),
      ((ofWord word).perform operations).StoresSpan word.length
        ((InfiniteTape.ofSymbols word.toList).written operations)) ∧
    (∀ (tape : Tape) (symbol : Symbol),
      tape.WritesCellwise symbol (tape.write symbol)) ∧
    (∀ (tape : Tape) (operations : List Operation),
      tape.storedLength ≤ (tape.perform operations).storedLength) ∧
    (∀ (tape : Tape) (directions : List Direction),
      (tape.perform (directions.map .shift)).cells = tape.cells) ∧
    (∀ (symbols : List Symbol) (moves : List (Symbol × Direction))
        (symbol : Symbol) (direction : Direction),
      let before :=
        (ofSymbols symbols).perform
          (moves.map fun move => .apply move.1 move.2)
      let after := before.apply symbol direction
      after.storedLength ≤ before.storedLength + 1 ∧
        -1 ≤ after.head ∧ after.head ≤ after.storedLength) ∧
    (∀ (machine : Machine) (word : String) (count : Nat)
        (configuration : Configuration),
      ((Run.begin machine word).nth count).1 = some configuration →
        word.length ≤ configuration.tape.storedLength ∧
          configuration.tape.storedLength ≤ word.length + count) := by
  refine
    ⟨storesSpan_perform, ?_, writesCellwise_write, storedLength_le_perform,
      cells_perform_shifts, ?_, ?_⟩
  · intro word operations
    rw [← String.length_toList]
    exact storesSpan_perform word.toList operations
  · intro symbols moves symbol direction before after
    have near : before.HeadIsNear :=
      (headIsNear_ofSymbols symbols).perform_applies moves
    have near' := near.apply symbol direction
    exact
      ⟨near.storedLength_apply_le symbol direction, near'.neg_one_le,
        near'.le_storedLength⟩
  · intro machine word count configuration yields
    rcases Run.nth_begin_eq_some_iff.mp yields with ⟨-, rfl⟩
    exact machine.storedLength_course word count

/-- A machine that fills one blank cell after the other to the left of its word. -/
def creeping : Machine where
  start := "on"
  accept := "yes"
  reject := "no"
  blank? := none
  rules := [⟨"on", Symbol.blank, "on", 'x', .left⟩]
  deterministic := by decide

/-- On the empty word each of its steps adds a cell, so the bound is reached. -/
theorem store_is_written_span_creeping :
    ((Run.begin creeping "").nth 3).1 = some (creeping.course "" 3) ∧
      (creeping.course "" 3).tape.storedLength ≤ 0 + 3 ∧
      (creeping.course "" 3).tape.storedLength = 3 := by
  have yields :
      ((Run.begin creeping "").nth 3).1 = some (creeping.course "" 3) := rfl
  rcases store_is_written_span with ⟨-, -, -, -, -, -, duringRun⟩
  exact ⟨yields, (duringRun creeping "" 3 _ yields).2, by decide⟩

end Tape

end TapeMachine
