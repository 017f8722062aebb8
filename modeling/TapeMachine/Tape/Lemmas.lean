import TapeMachine.Tape.Basic

/-!
# What an operation does to a tape

The store moves under the head as it grows to the left, so cells are best told
apart by their distance from the head.  Seen in this way the operations have
one equation each: a write changes the cell at distance zero, a movement shifts
all distances, and neither depends on what is stored.  The stored length has
equations of its own.
-/

namespace TapeMachine.Tape

/-- The symbol of the cell so many cells to the right of the head. -/
def seen (tape : Tape) (distance : Int) : Symbol :=
  tape.cellAt (tape.head + distance)

theorem cellAt_eq_getElem? (tape : Tape) (index : Int) :
    tape.cellAt index =
      if index < 0 then Symbol.blank else tape.cells[index.toNat]?.getD Symbol.blank := by
  simp [cellAt, Array.getD_eq_getD_getElem?]

theorem cellAt_of_neg {tape : Tape} {index : Int} (outside : index < 0) :
    tape.cellAt index = Symbol.blank := by
  simp [cellAt, outside]

theorem cellAt_of_storedLength_le {tape : Tape} {index : Int}
    (outside : (tape.storedLength : Int) ≤ index) :
    tape.cellAt index = Symbol.blank := by
  have nonneg : ¬ index < 0 := by omega
  have size : tape.cells.size ≤ index.toNat := by
    simp only [storedLength] at outside
    omega
  simp [cellAt_eq_getElem?, nonneg, Array.getElem?_eq_none size]

theorem cellAt_ofSymbols (symbols : List Symbol) (index : Int) :
    (ofSymbols symbols).cellAt index =
      if index < 0 then Symbol.blank else symbols[index.toNat]?.getD Symbol.blank := by
  simp [cellAt_eq_getElem?, ofSymbols]

/-! ## The cells -/

theorem read_eq_seen (tape : Tape) : tape.read = tape.seen 0 := by
  simp [read, seen]

theorem seen_write (tape : Tape) (symbol : Symbol) (distance : Int) :
    (tape.write symbol).seen distance =
      if distance = 0 then symbol else tape.seen distance := by
  rcases tape with ⟨cells, head⟩
  simp only [seen, write, cellAt_eq_getElem?]
  split
  · simp only [Array.getElem?_append]
    grind
  · split
    · simp only [Array.getElem?_set]
      grind
    · simp only [Array.getElem?_push, Array.getElem?_append]
      grind

theorem seen_shift (tape : Tape) (direction : Direction) (distance : Int) :
    (tape.shift direction).seen distance = tape.seen (distance + direction.offset) := by
  simp only [seen, shift, cellAt]
  congr 1 <;> grind

@[simp]
theorem read_write (tape : Tape) (symbol : Symbol) : (tape.write symbol).read = symbol := by
  simp [read_eq_seen, seen_write]

/-! ## The store -/

@[simp]
theorem storedLength_ofSymbols (symbols : List Symbol) :
    (ofSymbols symbols).storedLength = symbols.length := by
  simp [storedLength, ofSymbols]

@[simp]
theorem storedLength_shift (tape : Tape) (direction : Direction) :
    (tape.shift direction).storedLength = tape.storedLength :=
  rfl

theorem storedLength_write_of_neg {tape : Tape} (symbol : Symbol) (left : tape.head < 0) :
    (tape.write symbol).storedLength = tape.storedLength + tape.head.natAbs := by
  rcases tape with ⟨cells, head⟩
  simp only at left
  simp only [storedLength, write, left, if_true, Array.size_append, Array.size_replicate,
    List.size_toArray, List.length_cons, List.length_nil]
  omega

theorem storedLength_write_of_nonneg {tape : Tape} (symbol : Symbol) (right : 0 ≤ tape.head) :
    (tape.write symbol).storedLength = max tape.storedLength (tape.head.toNat + 1) := by
  rcases tape with ⟨cells, head⟩
  simp only at right
  have notLeft : ¬ head < 0 := by omega
  simp only [storedLength, write, notLeft, if_false]
  split
  · simp only [Array.size_set]
    omega
  · simp only [Array.size_push, Array.size_append, Array.size_replicate]
    omega

/-- A write adds what is missing behind the store and what is missing in front of it. -/
theorem storedLength_write (tape : Tape) (symbol : Symbol) :
    (tape.write symbol).storedLength =
      max tape.storedLength (tape.head + 1).toNat + (-tape.head).toNat := by
  by_cases left : tape.head < 0
  · rw [storedLength_write_of_neg symbol left]
    omega
  · rw [storedLength_write_of_nonneg symbol (Int.not_lt.mp left)]
    omega

/-- A head left of the store is on the first cell after a write. -/
theorem head_write (tape : Tape) (symbol : Symbol) :
    (tape.write symbol).head = max tape.head 0 := by
  rcases tape with ⟨cells, head⟩
  by_cases left : head < 0
  · simp only [write, if_pos left]
    omega
  · simp only [write, if_neg left]
    split <;> (simp only; omega)

theorem head_shift (tape : Tape) (direction : Direction) :
    (tape.shift direction).head = tape.head + direction.offset :=
  rfl

end TapeMachine.Tape
