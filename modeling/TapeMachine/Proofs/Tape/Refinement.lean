import TapeMachine.Proofs.Tape.Span

/-!
# The stored tape refines the infinite one

A stored tape represents an infinite one when the two hold the same symbols at
the same distances from their heads.  Every operation preserves this, whatever
the store looks like and wherever the head stands, so it holds after any
sequence of operations that both went through.

What is shown of a stored tape can then be read off the infinite one: the
symbol under the head, the content, the place of the head in it, and the
rendered text.
-/

namespace TapeMachine

/-! ## Operations on the infinite tape -/

namespace InfiniteTape

@[simp]
theorem seen_zero (tape : InfiniteTape) :
    tape.seen 0 = tape.read := by
  simp [seen, read]

theorem seen_write
    (tape : InfiniteTape) (symbol : Symbol) (distance : Int) :
    (tape.write symbol).seen distance =
      if distance = 0 then symbol else tape.seen distance := by
  have atHead : tape.head + distance = tape.head ↔ distance = 0 := by
    omega
  simp only [seen, write, atHead]

@[simp]
theorem cell_shift (tape : InfiniteTape) (direction : Direction) :
    (tape.shift direction).cell = tape.cell := by
  cases direction <;> rfl

/-- The head moves by as many cells as the stored one does. -/
theorem head_shift (tape : InfiniteTape) (direction : Direction) :
    (tape.shift direction).head = tape.head + direction.offset := by
  cases direction <;> simp [shift, Direction.offset, Int.sub_eq_add_neg]

theorem seen_shift
    (tape : InfiniteTape) (direction : Direction) (distance : Int) :
    (tape.shift direction).seen distance =
      tape.seen (distance + direction.offset) := by
  rw [seen, seen, cell_shift, head_shift]
  congr 1
  omega

end InfiniteTape

namespace Tape

/-! ## Representation -/

/-- The stored tape and the infinite one hold the same symbols around their heads. -/
def Represents (tape : Tape) (infinite : InfiniteTape) : Prop :=
  tape.unbounded.Agrees infinite

namespace Represents

variable
    {tape : Tape}
    {infinite : InfiniteTape}

theorem seen
    (same : tape.Represents infinite) (distance : Int) :
    tape.seen distance = infinite.seen distance :=
  same distance

theorem ofSymbols (symbols : List Symbol) :
    (Tape.ofSymbols symbols).Represents (.ofSymbols symbols) := by
  intro distance
  simp only [unbounded, InfiniteTape.seen, InfiniteTape.ofSymbols,
    cellAt_ofSymbols, List.getD_eq_getElem?_getD]
  rfl

theorem read (same : tape.Represents infinite) :
    tape.read = infinite.read := by
  rw [read_eq_seen, same.seen, InfiniteTape.seen_zero]

theorem write
    (same : tape.Represents infinite) (symbol : Symbol) :
    (tape.write symbol).Represents (infinite.write symbol) := by
  intro distance
  rw [InfiniteTape.seen_write, ← same.seen]
  exact Tape.seen_write tape symbol distance

theorem shift
    (same : tape.Represents infinite) (direction : Direction) :
    (tape.shift direction).Represents (infinite.shift direction) := by
  intro distance
  rw [InfiniteTape.seen_shift, ← same.seen]
  exact Tape.seen_shift tape direction distance

theorem apply
    (same : tape.Represents infinite)
    (symbol : Symbol) (direction : Direction) :
    (tape.apply symbol direction).Represents
      (infinite.apply symbol direction) :=
  (same.write symbol).shift direction

theorem act
    (same : tape.Represents infinite) (operation : Operation) :
    (tape.act operation).Represents (infinite.act operation) := by
  cases operation with
  | write symbol => exact same.write symbol
  | shift direction => exact same.shift direction
  | apply symbol direction => exact same.apply symbol direction

theorem perform
    (same : tape.Represents infinite) (operations : List Operation) :
    (tape.perform operations).Represents
      (infinite.perform operations) := by
  induction operations generalizing tape infinite with
  | nil => exact same
  | cons operation rest induction =>
      exact induction (same.act operation)

end Represents

/-! ## What is shown -/

/--
A stored tape shows the cells from `first` to `last` of an infinite one.  These
are the least span that covers the head and every cell that is not blank; the
content is their symbols, the place of the head in it counts from `first`, and
rendering puts the cell under the head in brackets and no other.
-/
structure Shows
    (tape : Tape) (infinite : InfiniteTape) (first last : Int) : Prop where
  spans : infinite.Spans first last
  read : tape.read = infinite.read
  content : tape.content = infinite.symbolsBetween first last
  headOffset : (tape.headOffset : Int) = infinite.head - first
  headOffset_lt : tape.headOffset < tape.content.length
  render : ∀ shownBlank : Symbol,
    tape.render shownBlank =
      String.ofList
        ((infinite.symbolsBetween first (infinite.head - 1)).map
            (·.present shownBlank) ++
          '[' :: infinite.read.present shownBlank :: ']' ::
            (infinite.symbolsBetween (infinite.head + 1) last).map
              (·.present shownBlank))

/-- What is shown of a stored tape is the least span of any infinite tape it represents. -/
theorem Represents.shows
    {tape : Tape} {infinite : InfiniteTape}
    (same : tape.Represents infinite) :
    ∃ first last : Int, tape.Shows infinite first last := by
  have spans := tape.spans_content.of_agrees same
  have contentEq := InfiniteTape.symbolsBetween_of_agrees same
    tape.contentStart tape.contentEnd
  generalize tape.contentEnd + (infinite.head - tape.unbounded.head) = last
    at spans contentEq
  have offset :
      (tape.headOffset : Int) =
        infinite.head -
          (tape.contentStart + (infinite.head - tape.unbounded.head)) := by
    rw [headOffset_eq_sub]
    simp only [unbounded]
    omega
  generalize tape.contentStart + (infinite.head - tape.unbounded.head) = first
    at spans contentEq offset
  rw [← content_eq_symbolsBetween] at contentEq
  have leHead := spans.first_le_head
  have headLe := spans.head_le_last
  have parts :
      tape.content =
        infinite.symbolsBetween first (infinite.head - 1) ++
          infinite.read :: infinite.symbolsBetween (infinite.head + 1) last := by
    rw [← contentEq,
      infinite.symbolsBetween_append first (infinite.head - 1) last
        (by omega) (by omega),
      Int.sub_add_cancel, infinite.symbolsBetween_cons headLe]
    rfl
  refine ⟨first, last, ?_⟩
  exact
    { spans
      read := same.read
      content := contentEq.symm
      headOffset := offset
      headOffset_lt := tape.headOffset_lt_length_content
      render := fun shownBlank =>
        render_of_content_eq shownBlank parts (by
          rw [InfiniteTape.length_symbolsBetween]
          omega) }

end Tape

end TapeMachine
