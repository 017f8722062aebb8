import TapeMachine.Proofs.Tape.Refinement

/-!
# Equality of tapes

Tapes are equal when they agree in their content and in the place of the head
in it.  Neither the padding of the store nor the way it grew enters.  This module
shows that nothing that could be observed is lost in this way: equal tapes hold
the same symbols at the same distances from their heads, and so do only they.

It follows that equal tapes cannot be told apart by anything done to them, and
that tapes which cannot be told apart are equal, since a few movements bring
the head to any cell.
-/

namespace TapeMachine

namespace InfiniteTape

theorem Agrees.symm
    {left right : InfiniteTape}
    (agrees : left.Agrees right) :
    right.Agrees left :=
  fun distance => (agrees distance).symm

theorem Agrees.trans
    {left middle right : InfiniteTape}
    (agrees : left.Agrees middle)
    (agrees' : middle.Agrees right) :
    left.Agrees right :=
  fun distance => (agrees distance).trans (agrees' distance)

theorem getElem?_symbolsBetween
    (tape : InfiniteTape) (first last : Int) (step : Nat) :
    (tape.symbolsBetween first last)[step]? =
      if first + step ≤ last then some (tape.cell (first + step))
      else none := by
  by_cases inside : first + step ≤ last
  · have inRange : step < (last - first + 1).toNat := by
      omega
    simp [symbolsBetween, inside, inRange]
  · have outOfRange :
        (tape.symbolsBetween first last).length ≤ step := by
      rw [length_symbolsBetween]
      omega
    rw [if_neg inside, List.getElem?_eq_none outOfRange]

end InfiniteTape

namespace Tape

theorem represents_unbounded (tape : Tape) :
    tape.Represents tape.unbounded :=
  fun _ => rfl

/-- A tape is represented again by its content. -/
theorem seen_eq_cellAt_content
    (tape : Tape) (distance : Int) :
    tape.seen distance =
      (ofSymbols tape.content).cellAt (tape.headOffset + distance) := by
  have blankOutside := tape.spans_content.blank_outside (tape.head + distance)
  have offset := tape.headOffset_eq_sub
  rw [cellAt_ofSymbols, content_eq_symbolsBetween,
    InfiniteTape.getElem?_symbolsBetween]
  by_cases before : tape.head + distance < tape.contentStart
  · rw [if_pos (by omega)]
    exact blankOutside (Or.inl before)
  · rw [if_neg (by omega)]
    have place :
        tape.contentStart + (tape.headOffset + distance).toNat =
          tape.head + distance := by
      omega
    rw [place]
    by_cases behind : tape.contentEnd < tape.head + distance
    · rw [if_neg (by omega)]
      exact blankOutside (Or.inr behind)
    · rw [if_pos (by omega)]
      rfl

/-! ## Equal tapes agree -/

theorem beq_iff_content
    (left right : Tape) :
    (left == right) = true ↔
      left.headOffset = right.headOffset ∧ left.content = right.content := by
  change
    (left.headOffset == right.headOffset && left.content == right.content) =
        true ↔ _
  simp

theorem beq_iff_agrees
    (left right : Tape) :
    (left == right) = true ↔ left.unbounded.Agrees right.unbounded := by
  rw [beq_iff_content]
  constructor
  · rintro ⟨sameOffset, sameContent⟩ distance
    change left.seen distance = right.seen distance
    rw [seen_eq_cellAt_content, seen_eq_cellAt_content, sameOffset,
      sameContent]
  · intro agrees
    rcases Represents.shows agrees with ⟨first, last, shown⟩
    rcases right.represents_unbounded.shows with ⟨first', last', shown'⟩
    rcases shown.spans.unique shown'.spans with ⟨rfl, rfl⟩
    constructor
    · have := shown.headOffset.trans shown'.headOffset.symm
      omega
    · rw [shown.content, shown'.content]

theorem beq_refl (tape : Tape) : (tape == tape) = true :=
  (beq_iff_content tape tape).mpr ⟨rfl, rfl⟩

theorem beq_symm
    {left right : Tape}
    (equal : (left == right) = true) :
    (right == left) = true := by
  rw [beq_iff_agrees] at equal ⊢
  exact equal.symm

theorem beq_trans
    {left middle right : Tape}
    (equal : (left == middle) = true)
    (equal' : (middle == right) = true) :
    (left == right) = true := by
  rw [beq_iff_agrees] at equal equal' ⊢
  exact equal.trans equal'

theorem agrees_perform
    {left right : Tape}
    (agrees : left.unbounded.Agrees right.unbounded)
    (operations : List Operation) :
    (left.perform operations).unbounded.Agrees
      (right.perform operations).unbounded := by
  have fromLeft := Represents.perform agrees operations
  have fromRight := right.represents_unbounded.perform operations
  exact InfiniteTape.Agrees.trans fromLeft fromRight.symm

theorem perform_beq
    {left right : Tape}
    (equal : (left == right) = true) (operations : List Operation) :
    (left.perform operations == right.perform operations) = true := by
  rw [beq_iff_agrees] at equal ⊢
  exact agrees_perform equal operations

theorem read_eq_of_beq
    {left right : Tape}
    (equal : (left == right) = true) :
    left.read = right.read := by
  rw [beq_iff_agrees] at equal
  rw [read_eq_seen, read_eq_seen]
  exact equal 0

theorem render_eq_of_beq
    {left right : Tape}
    (equal : (left == right) = true) (shownBlank : Symbol) :
    left.render shownBlank = right.render shownBlank := by
  rcases (beq_iff_content left right).mp equal with ⟨sameOffset, sameContent⟩
  simp only [render, cellTexts, sameOffset, sameContent]

/-! ## Tapes that agree in every observation are equal -/

theorem seen_perform_shifts
    (tape : Tape) (direction : Direction) (count : Nat) (distance : Int) :
    (tape.perform (List.replicate count (.shift direction))).seen distance =
      tape.seen (distance + count * direction.offset) := by
  induction count generalizing tape with
  | zero => simp
  | succ count induction =>
      rw [List.replicate_succ, perform_cons, induction]
      change (tape.shift direction).seen _ = _
      rw [seen_shift]
      congr 1
      rw [Int.natCast_add, Int.add_mul]
      omega

/-- Some movements bring the head to the cell at a given distance. -/
theorem exists_perform_read_eq_seen (distance : Int) :
    ∃ operations : List Operation, ∀ tape : Tape,
      (tape.perform operations).read = tape.seen distance := by
  rcases Int.eq_nat_or_neg distance with ⟨count, rfl | rfl⟩
  · refine ⟨List.replicate count (.shift .right), fun tape => ?_⟩
    rw [read_eq_seen, seen_perform_shifts]
    simp [Direction.offset]
  · refine ⟨List.replicate count (.shift .left), fun tape => ?_⟩
    rw [read_eq_seen, seen_perform_shifts]
    simp [Direction.offset]

theorem beq_iff_forall_perform_read
    (left right : Tape) :
    (left == right) = true ↔
      ∀ operations : List Operation,
        (left.perform operations).read =
          (right.perform operations).read := by
  constructor
  · intro equal operations
    exact read_eq_of_beq (perform_beq equal operations)
  · intro observed
    rw [beq_iff_agrees]
    intro distance
    rcases exists_perform_read_eq_seen distance with ⟨operations, brings⟩
    have same := observed operations
    rw [brings left, brings right] at same
    exact same

/-- A tape can be built again from its content by moving the head to its place. -/
theorem rebuilt_beq (tape : Tape) :
    ((ofSymbols tape.content).perform
        (List.replicate tape.headOffset (.shift .right)) == tape) = true := by
  rw [beq_iff_agrees]
  intro distance
  change Tape.seen _ distance = tape.seen distance
  rw [seen_perform_shifts, seen_eq_cellAt_content tape]
  simp only [seen, Direction.offset, ofSymbols]
  congr 1
  omega

/-- Blanks behind some symbols cannot be told from cells never written to. -/
theorem ofSymbols_append_beq
    (symbols : List Symbol) {blanks : List Symbol}
    (areBlank : ∀ symbol ∈ blanks, symbol = Symbol.blank) :
    (ofSymbols (symbols ++ blanks) == ofSymbols symbols) = true := by
  have blankBehind :
      ∀ place : Nat, blanks[place]?.getD Symbol.blank = Symbol.blank := by
    intro place
    rcases found : blanks[place]? with _ | symbol
    · rfl
    · exact areBlank symbol (List.mem_of_getElem? found)
  rw [beq_iff_agrees]
  intro distance
  change
    (ofSymbols (symbols ++ blanks)).cellAt (0 + distance) =
      (ofSymbols symbols).cellAt (0 + distance)
  rw [cellAt_ofSymbols, cellAt_ofSymbols]
  split
  · rfl
  · rw [List.getElem?_append]
    split
    · rfl
    · next behind =>
        rw [blankBehind, List.getElem?_eq_none (Nat.not_lt.mp behind)]
        rfl

end Tape

end TapeMachine
