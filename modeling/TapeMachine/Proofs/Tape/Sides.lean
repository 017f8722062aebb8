import TapeMachine.Proofs.Tape.Equality

/-!
# The two sides of a head

The course of a machine over a word is easiest to follow in two lists: the cells
left of the head, nearest first, and the cells from the head on.  A write and a
movement then change the beginnings of the lists and nothing else.

Cells beyond a list are blank, so the same tape has many pairs of lists, which
differ in the blanks at their ends.  The content of a tape is found in the pair
that has no such blanks.
-/

namespace TapeMachine

/-- The cells left of a head, nearest first, and the cells from the head on. -/
structure Sides where
  left : List Symbol
  right : List Symbol

namespace Sides

/-- The symbol so many cells to the right of the head. -/
def seen (sides : Sides) : Int → Symbol
  | .ofNat place => sides.right[place]?.getD Symbol.blank
  | .negSucc place => sides.left[place]?.getD Symbol.blank

/-- The symbol under the head. -/
def read (sides : Sides) : Symbol :=
  sides.right.headD Symbol.blank

/-- The sides of a head on the first cell of `left`, with the cells of `right` behind it. -/
def leftOf (left right : List Symbol) : Sides where
  left := left.tail
  right := left.headD Symbol.blank :: right

/-- Writes a symbol and then moves the head. -/
def apply (sides : Sides) (symbol : Symbol) : Direction → Sides
  | .left => leftOf sides.left (symbol :: sides.right.tail)
  | .right =>
    { left := symbol :: sides.left
      right := sides.right.tail }
  | .stay =>
    { left := sides.left
      right := symbol :: sides.right.tail }

theorem seen_zero (sides : Sides) : sides.seen 0 = sides.read := by
  rcases sides with ⟨left, _ | ⟨symbol, right⟩⟩ <;> rfl

theorem getElem?_tail
    (symbols : List Symbol) (place : Nat) :
    symbols.tail[place]?.getD Symbol.blank =
      symbols[place + 1]?.getD Symbol.blank := by
  rw [List.getElem?_tail]

theorem seen_apply
    (sides : Sides) (symbol : Symbol) (direction : Direction) (distance : Int) :
    (sides.apply symbol direction).seen distance =
      if distance + direction.offset = 0 then symbol
      else sides.seen (distance + direction.offset) := by
  rcases sides with ⟨left, right⟩
  cases direction with
  | left =>
      rcases distance with (_ | _ | place) | place
      · cases left <;> rfl
      · rfl
      · have shifted :
            Int.ofNat (place + 2) + Direction.left.offset =
              Int.ofNat (place + 1) := by
          simp only [Int.ofNat_eq_natCast, Direction.offset]
          omega
        rw [shifted]
        exact getElem?_tail right place
      · exact getElem?_tail left place
  | right =>
      rcases distance with place | _ | place
      · exact getElem?_tail right place
      · rfl
      · rfl
  | stay =>
      rcases distance with (_ | place) | place
      · rfl
      · exact getElem?_tail right place
      · rfl

end Sides

namespace Tape

/-- The tape holds the symbols of the two sides, and blanks beyond them. -/
def HasSides (tape : Tape) (sides : Sides) : Prop :=
  ∀ distance : Int, tape.seen distance = sides.seen distance

theorem hasSides_ofSymbols (symbols : List Symbol) :
    (ofSymbols symbols).HasSides ⟨[], symbols⟩ := by
  intro distance
  rw [seen, cellAt_ofSymbols]
  change (if 0 + distance < 0 then _ else symbols[(0 + distance).toNat]?.getD _) = _
  rw [Int.zero_add]
  rcases distance with place | place
  · have inside : ¬ Int.ofNat place < 0 := by simp
    rw [if_neg inside]
    rfl
  · rw [if_pos (Int.negSucc_lt_zero place)]
    rfl

namespace HasSides

variable
    {tape : Tape}
    {sides : Sides}

theorem read (has : tape.HasSides sides) :
    tape.read = sides.read := by
  rw [read_eq_seen, has, Sides.seen_zero]

theorem apply
    (has : tape.HasSides sides)
    (symbol : Symbol) (direction : Direction) :
    (tape.apply symbol direction).HasSides
      (sides.apply symbol direction) := by
  intro distance
  rw [Tape.apply, seen_shift, seen_write, has, Sides.seen_apply]

end HasSides

/-! ## Blanks at the ends -/

theorem getElem?_append_blank
    (symbols : List Symbol) (place : Nat) :
    (symbols ++ [Symbol.blank])[place]?.getD Symbol.blank =
      symbols[place]?.getD Symbol.blank := by
  rw [List.getElem?_append]
  split
  · rfl
  · next outside =>
      rw [List.getElem?_eq_none (Nat.le_of_not_lt outside)]
      cases place - symbols.length <;> rfl

theorem hasSides_append_blank_left
    {tape : Tape} {left right : List Symbol} :
    tape.HasSides ⟨left ++ [Symbol.blank], right⟩ ↔
      tape.HasSides ⟨left, right⟩ := by
  apply forall_congr'
  rintro (place | place)
  · rfl
  · simp only [Sides.seen, getElem?_append_blank]

theorem hasSides_append_blank_right
    {tape : Tape} {left right : List Symbol} :
    tape.HasSides ⟨left, right ++ [Symbol.blank]⟩ ↔
      tape.HasSides ⟨left, right⟩ := by
  apply forall_congr'
  rintro (place | place)
  · simp only [Sides.seen, getElem?_append_blank]
  · rfl

/-! ## The content -/

theorem HasSides.cellAt_right
    {tape : Tape} {sides : Sides}
    (has : tape.HasSides sides) (place : Nat) :
    tape.cellAt (tape.head + place) = sides.right[place]?.getD Symbol.blank :=
  has place

theorem HasSides.cellAt_left
    {tape : Tape} {sides : Sides}
    (has : tape.HasSides sides) (place : Nat) :
    tape.cellAt (tape.head - (place + 1)) =
      sides.left[place]?.getD Symbol.blank :=
  has (.negSucc place)

section Content

variable
    {tape : Tape}
    {left right : List Symbol}
    {symbol : Symbol}

theorem spans_of_hasSides
    (has : tape.HasSides ⟨left, symbol :: right⟩)
    (leftEnds : left.getLast? ≠ some Symbol.blank)
    (rightEnds : right.getLast? ≠ some Symbol.blank) :
    tape.unbounded.Spans
      (tape.head - left.length) (tape.head + right.length) where
  first_le_head := by
    change tape.head - left.length ≤ tape.head
    omega
  head_le_last := by
    change tape.head ≤ tape.head + right.length
    omega
  blank_outside := by
    rintro position (before | behind)
    · rcases Int.le.dest (by omega : position + 1 ≤ tape.head) with
        ⟨place, isHead⟩
      have outside : left.length ≤ place := by omega
      obtain rfl : position = tape.head - (place + 1) := by omega
      change tape.cellAt _ = Symbol.blank
      rw [has.cellAt_left, List.getElem?_eq_none outside]
      rfl
    · rcases Int.le.dest (by omega : tape.head ≤ position) with
        ⟨place, rfl⟩
      have outside : (symbol :: right).length ≤ place := by
        rw [List.length_cons]
        omega
      change tape.cellAt _ = Symbol.blank
      rw [has.cellAt_right, List.getElem?_eq_none outside]
      rfl
  first_needed := by
    rcases left.eq_nil_or_concat with rfl | ⟨nearer, last, rfl⟩
    · exact Or.inl (Int.sub_zero tape.head)
    · right
      change tape.cellAt _ ≠ Symbol.blank
      rw [List.length_concat, Int.natCast_succ, has.cellAt_left]
      simpa using leftEnds
  last_needed := by
    rcases right.eq_nil_or_concat with rfl | ⟨nearer, last, rfl⟩
    · exact Or.inl (Int.add_zero tape.head)
    · right
      change tape.cellAt _ ≠ Symbol.blank
      rw [has.cellAt_right]
      simpa using rightEnds

/-- Sides that end in no blank list the content of a tape. -/
theorem content_of_hasSides
    (has : tape.HasSides ⟨left, symbol :: right⟩)
    (leftEnds : left.getLast? ≠ some Symbol.blank)
    (rightEnds : right.getLast? ≠ some Symbol.blank) :
    tape.content = left.reverse ++ symbol :: right ∧
      tape.headOffset = left.length := by
  rcases tape.spans_content.unique
      (spans_of_hasSides has leftEnds rightEnds) with
    ⟨isStart, isEnd⟩
  constructor
  · apply List.ext_getElem?
    intro step
    rw [content_eq_symbolsBetween, InfiniteTape.getElem?_symbolsBetween,
      isStart, isEnd]
    change (if _ then some (tape.cellAt _) else none) = _
    by_cases before : step < left.length
    · have isLeft :
          tape.head - (left.length : Int) + step =
            tape.head - ((left.length - 1 - step : Nat) + 1) := by
        omega
      have inside : left.length - 1 - step < left.length := by omega
      rw [if_pos (by omega), isLeft, has.cellAt_left,
        List.getElem?_append_left (by simpa using before),
        List.getElem?_reverse before, List.getElem?_eq_getElem inside]
      rfl
    · rcases Nat.exists_eq_add_of_le (Nat.le_of_not_lt before) with
        ⟨place, rfl⟩
      have isRight :
          tape.head - (left.length : Int) + (left.length + place : Nat) =
            tape.head + place := by
        omega
      rw [isRight, has.cellAt_right,
        List.getElem?_append_right (by simp), List.length_reverse,
        Nat.add_sub_cancel_left]
      by_cases inside : place ≤ right.length
      · rw [if_pos (by omega),
          List.getElem?_eq_getElem (Nat.lt_succ_of_le inside)]
        rfl
      · rw [if_neg (by omega),
          List.getElem?_eq_none (Nat.lt_of_not_le inside)]
  · have offset := tape.headOffset_eq_sub
    rw [isStart] at offset
    omega

end Content

end Tape

end TapeMachine
