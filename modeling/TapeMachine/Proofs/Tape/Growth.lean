import TapeMachine.Tape.Lemmas

/-!
# A write extends the store cell by cell

A write is defined in one go: it adds all the cells that are missing between the
store and the head.  The store could as well be extended one cell at a time, in
front as long as the head is left of the store, and then behind as long as it is
right of it.

Each of these two loops comes to an end, because the head gets nearer to the
store, and neither changes what a write gives.  After them the head is inside the
store, where a write only sets its cell.
-/

namespace TapeMachine

/-! ## Loops -/

/-- Doing the body as long as the condition holds leads from one value to another. -/
inductive Loop {α : Type} (goesOn : α → Prop) (body : α → α) : α → α → Prop where
  | stop {value : α} (ended : ¬ goesOn value) : Loop goesOn body value value
  | again {value final : α} (goes : goesOn value)
      (rest : Loop goesOn body (body value) final) :
      Loop goesOn body value final

namespace Loop

variable
    {α : Type}
    {goesOn : α → Prop}
    {body : α → α}
    {value final : α}

theorem ends
    (measure : α → Nat)
    (decreases : ∀ value, goesOn value → measure (body value) < measure value)
    (value : α) :
    ∃ final, Loop goesOn body value final := by
  induction value using (InvImage.wf measure Nat.lt_wfRel.wf).induction with
  | h value induction =>
      by_cases goes : goesOn value
      · rcases induction (body value) (decreases value goes) with
          ⟨final, rest⟩
        exact ⟨final, again goes rest⟩
      · exact ⟨value, stop goes⟩

theorem not_goesOn
    (loop : Loop goesOn body value final) :
    ¬ goesOn final := by
  induction loop with
  | stop ended => exact ended
  | again goes rest induction => exact induction

theorem keeps
    (loop : Loop goesOn body value final)
    (invariant : α → Prop)
    (kept : ∀ value, goesOn value → invariant value → invariant (body value))
    (holds : invariant value) :
    invariant final := by
  induction loop with
  | stop ended => exact holds
  | again goes rest induction => exact induction (kept _ goes holds)

end Loop

namespace Tape

/-- Tapes with the same head and the same store are one tape. -/
theorem eq_of_seen_eq
    {left right : Tape}
    (sameHead : left.head = right.head)
    (sameLength : left.storedLength = right.storedLength)
    (sameCells : ∀ distance : Int, left.seen distance = right.seen distance) :
    left = right := by
  rcases left with ⟨cells, head⟩
  rcases right with ⟨cells', head'⟩
  obtain rfl : head = head' := sameHead
  congr 1
  apply Array.ext sameLength
  intro place inside inside'
  have same := sameCells (place - head)
  have atPlace : head + (place - head) = place := by omega
  have nonneg : ¬ (place : Int) < 0 := by omega
  simpa [seen, cellAt_eq_getElem?, atPlace, nonneg, inside, inside'] using same

/-! ## One more cell -/

/-- The tape with one more blank cell in front of its store. -/
def padFront (tape : Tape) : Tape where
  cells := #[Symbol.blank] ++ tape.cells
  head := tape.head + 1

/-- The tape with one more blank cell behind its store. -/
def padBack (tape : Tape) : Tape where
  cells := tape.cells.push Symbol.blank
  head := tape.head

section Padding

variable
    (tape : Tape)

theorem head_padFront : tape.padFront.head = tape.head + 1 :=
  rfl

theorem head_padBack : tape.padBack.head = tape.head :=
  rfl

theorem storedLength_padFront :
    tape.padFront.storedLength = tape.storedLength + 1 := by
  simp [storedLength, padFront, Nat.add_comm]

theorem storedLength_padBack :
    tape.padBack.storedLength = tape.storedLength + 1 :=
  Array.size_push Symbol.blank

/-- Blank cells around the store are not seen. -/
theorem seen_padFront (distance : Int) :
    tape.padFront.seen distance = tape.seen distance := by
  simp only [seen, padFront, cellAt_eq_getElem?, Array.getElem?_append]
  grind

theorem seen_padBack (distance : Int) :
    tape.padBack.seen distance = tape.seen distance := by
  simp only [seen, padBack, cellAt_eq_getElem?, Array.getElem?_push]
  grind

end Padding

section Writing

variable
    {tape : Tape}

theorem write_padFront
    (left : tape.head < 0) (symbol : Symbol) :
    tape.padFront.write symbol = tape.write symbol := by
  apply eq_of_seen_eq
  · rw [head_write, head_write, head_padFront]
    omega
  · rw [storedLength_write, storedLength_write, head_padFront,
      storedLength_padFront]
    omega
  · intro distance
    rw [seen_write, seen_write, seen_padFront]

theorem write_padBack
    (right : (tape.storedLength : Int) ≤ tape.head) (symbol : Symbol) :
    tape.padBack.write symbol = tape.write symbol := by
  apply eq_of_seen_eq
  · rw [head_write, head_write, head_padBack]
  · rw [storedLength_write, storedLength_write, head_padBack,
      storedLength_padBack]
    omega
  · intro distance
    rw [seen_write, seen_write, seen_padBack]

theorem write_of_inside
    (nonneg : 0 ≤ tape.head)
    (inside : tape.head.toNat < tape.cells.size) (symbol : Symbol) :
    tape.write symbol =
      { cells := tape.cells.set tape.head.toNat symbol inside
        head := tape.head } := by
  rcases tape with ⟨cells, head⟩
  simp only [write, if_neg (Int.not_lt.mpr nonneg), dif_pos inside]

end Writing

/-! ## Writing cell by cell -/

/--
A write that extends the store one cell at a time, first in front and then
behind, and sets the cell under the head, which is inside the store by then.
-/
def WritesCellwise (tape : Tape) (symbol : Symbol) (after : Tape) : Prop :=
  ∃ front padded : Tape,
    Loop (fun grown => grown.head < 0) padFront tape front ∧
    Loop (fun grown => (grown.storedLength : Int) ≤ grown.head) padBack
      front padded ∧
    0 ≤ padded.head ∧
    ∃ inside : padded.head.toNat < padded.cells.size,
      after =
        { cells := padded.cells.set padded.head.toNat symbol inside
          head := padded.head }

/-- On every tape a write comes to an end, and the cell it sets is inside the store. -/
theorem writesCellwise_write (tape : Tape) (symbol : Symbol) :
    tape.WritesCellwise symbol (tape.write symbol) := by
  have fewerInFront :
      ∀ grown : Tape, grown.head < 0 →
        (-grown.padFront.head).toNat < (-grown.head).toNat := by
    intro grown left
    rw [head_padFront]
    omega
  have fewerBehind :
      ∀ grown : Tape, (grown.storedLength : Int) ≤ grown.head →
        (grown.padBack.head + 1 - grown.padBack.storedLength).toNat <
          (grown.head + 1 - grown.storedLength).toNat := by
    intro grown right
    rw [head_padBack, storedLength_padBack]
    omega
  rcases Loop.ends (fun grown => (-grown.head).toNat) fewerInFront tape with
    ⟨front, frontLoop⟩
  rcases Loop.ends (fun grown => (grown.head + 1 - grown.storedLength).toNat)
      fewerBehind front with
    ⟨padded, backLoop⟩
  have sameFront : front.write symbol = tape.write symbol :=
    frontLoop.keeps (fun grown => grown.write symbol = tape.write symbol)
      (fun _ left same => (write_padFront left symbol).trans same) rfl
  have samePadded : padded.write symbol = tape.write symbol :=
    backLoop.keeps (fun grown => grown.write symbol = tape.write symbol)
      (fun _ right same => (write_padBack right symbol).trans same) sameFront
  have nonneg : 0 ≤ padded.head :=
    backLoop.keeps (fun grown => 0 ≤ grown.head)
      (fun _ _ nonneg => nonneg) (Int.not_lt.mp frontLoop.not_goesOn)
  have notRight := backLoop.not_goesOn
  have inside : padded.head.toNat < padded.cells.size := by
    simp only [storedLength] at notRight
    omega
  exact
    ⟨front, padded, frontLoop, backLoop, nonneg, inside,
      samePadded.symm.trans (write_of_inside nonneg inside symbol)⟩

end Tape

end TapeMachine
