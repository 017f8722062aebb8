import Mathlib.Order.Bounds.Basic
import Mathlib.Order.MinMax
import TapeMachine.Tape.Content
import TapeMachine.Tape.Infinite
import TapeMachine.Tape.Lemmas

/-!
# The span of a tape

The content of a stored tape is found by scanning the store for its first and
its last cell that is not blank.  This module relates the scan to an infinite
tape which holds the same symbols at the same distances from its head.

The scanned span is the least one that covers the head and every cell that is
not blank, the content lists the symbols of that span, and rendering brackets
the cell under the head and no other.  The infinite tape may count its cells
from anywhere: only distances from the head enter.
-/

namespace TapeMachine

namespace InfiniteTape

/-- The symbol of the cell so many cells to the right of the head. -/
def seen (tape : InfiniteTape) (distance : Int) : Symbol :=
  tape.cell (tape.head + distance)

/-! ## Least spans -/

/-- The cells that a span has to cover: the one under the head, and all that are not blank. -/
def needed (tape : InfiniteTape) : Set Int :=
  { position | position = tape.head ∨ tape.cell position ≠ Symbol.blank }

/-- A span is the least one when it ends at the outermost cells to be covered. -/
theorem spans_iff
    (tape : InfiniteTape) (first last : Int) :
    tape.Spans first last ↔
      IsLeast tape.needed first ∧ IsGreatest tape.needed last := by
  constructor
  · intro spans
    refine ⟨⟨spans.first_needed, ?_⟩, ⟨spans.last_needed, ?_⟩⟩
    · rintro position (rfl | ink)
      · exact spans.first_le_head
      · by_contra before
        exact ink (spans.blank_outside position (Or.inl (by omega)))
    · rintro position (rfl | ink)
      · exact spans.head_le_last
      · by_contra behind
        exact ink (spans.blank_outside position (Or.inr (by omega)))
  · rintro ⟨⟨firstNeeded, firstLeast⟩, ⟨lastNeeded, lastGreatest⟩⟩
    refine
      { first_le_head := firstLeast (Or.inl rfl)
        head_le_last := lastGreatest (Or.inl rfl)
        blank_outside := ?_
        first_needed := firstNeeded
        last_needed := lastNeeded }
    intro position outside
    by_contra ink
    have firstLe : first ≤ position := firstLeast (Or.inr ink)
    have leLast : position ≤ last := lastGreatest (Or.inr ink)
    omega

theorem Spans.unique
    {tape : InfiniteTape} {first first' last last' : Int}
    (spans : tape.Spans first last)
    (spans' : tape.Spans first' last') :
    first = first' ∧ last = last' := by
  rw [spans_iff] at spans spans'
  exact
    ⟨spans.1.unique spans'.1, spans.2.unique spans'.2⟩

/-! ## The symbols of a span -/

@[simp]
theorem length_symbolsBetween
    (tape : InfiniteTape) (first last : Int) :
    (tape.symbolsBetween first last).length = (last - first + 1).toNat := by
  simp [symbolsBetween]

theorem symbolsBetween_cons
    (tape : InfiniteTape) {first last : Int}
    (ordered : first ≤ last) :
    tape.symbolsBetween first last =
      tape.cell first :: tape.symbolsBetween (first + 1) last := by
  have width :
      (last - first + 1).toNat = (last - (first + 1) + 1).toNat + 1 := by
    omega
  simp only [symbolsBetween]
  rw [width, List.range_succ_eq_map, List.map_cons, List.map_map]
  congr 1
  · simp
  · apply List.map_congr_left
    intro step _
    simp only [Function.comp_apply]
    congr 1
    omega

theorem symbolsBetween_append
    (tape : InfiniteTape) (first middle last : Int)
    (ordered : first ≤ middle + 1)
    (ordered' : middle ≤ last) :
    tape.symbolsBetween first last =
      tape.symbolsBetween first middle ++
        tape.symbolsBetween (middle + 1) last := by
  have width :
      (last - first + 1).toNat =
        (middle - first + 1).toNat + (last - (middle + 1) + 1).toNat := by
    omega
  simp only [symbolsBetween]
  rw [width, List.range_add, List.map_append, List.map_map]
  congr 1
  apply List.map_congr_left
  intro step _
  simp only [Function.comp_apply]
  congr 1
  omega

/-! ## Spans do not depend on where cells are counted from -/

/-- The two tapes hold the same symbols at the same distances from their heads. -/
def Agrees (left right : InfiniteTape) : Prop :=
  ∀ distance : Int, left.seen distance = right.seen distance

theorem Agrees.cell_add
    {left right : InfiniteTape}
    (agrees : left.Agrees right) (position : Int) :
    right.cell (position + (right.head - left.head)) =
      left.cell position := by
  have agreed := agrees (position - left.head)
  simp only [seen] at agreed
  rw [show left.head + (position - left.head) = position by omega] at agreed
  rw [agreed]
  congr 1
  omega

theorem Spans.of_agrees
    {left right : InfiniteTape} {first last : Int}
    (spans : left.Spans first last)
    (agrees : left.Agrees right) :
    right.Spans
      (first + (right.head - left.head))
      (last + (right.head - left.head)) where
  first_le_head := by
    have := spans.first_le_head
    omega
  head_le_last := by
    have := spans.head_le_last
    omega
  blank_outside := by
    intro position outside
    have agreed := agrees.cell_add (position - (right.head - left.head))
    rw [Int.sub_add_cancel] at agreed
    rw [agreed]
    exact spans.blank_outside _ (by omega)
  first_needed := by
    rw [agrees.cell_add]
    rcases spans.first_needed with atHead | ink
    · exact Or.inl (by omega)
    · exact Or.inr ink
  last_needed := by
    rw [agrees.cell_add]
    rcases spans.last_needed with atHead | ink
    · exact Or.inl (by omega)
    · exact Or.inr ink

theorem symbolsBetween_of_agrees
    {left right : InfiniteTape}
    (agrees : left.Agrees right) (first last : Int) :
    right.symbolsBetween
        (first + (right.head - left.head))
        (last + (right.head - left.head)) =
      left.symbolsBetween first last := by
  have width :
      last + (right.head - left.head) - (first + (right.head - left.head)) + 1 =
        last - first + 1 := by
    omega
  simp only [symbolsBetween, width]
  apply List.map_congr_left
  intro step _
  rw [← agrees.cell_add]
  congr 1
  omega

end InfiniteTape

namespace Tape

/-! ## Scanning for ink -/

theorem not_isInk_iff (symbol : Symbol) :
    isInk symbol = false ↔ symbol = Symbol.blank := by
  simp [isInk]

theorem cellAt_of_lt
    (tape : Tape) {index : Nat}
    (inside : index < tape.cells.size) :
    tape.cellAt index = tape.cells[index] := by
  simp [cellAt_eq_getElem?, inside]

/-- All cells are blank if the stored ones are. -/
theorem cellAt_eq_blank
    {tape : Tape}
    (noInk : ∀ symbol ∈ tape.cells, isInk symbol = false)
    (index : Int) :
    tape.cellAt index = Symbol.blank := by
  by_cases left : index < 0
  · exact cellAt_of_neg left
  · by_cases right : (tape.storedLength : Int) ≤ index
    · exact cellAt_of_storedLength_le right
    · rcases Int.eq_ofNat_of_zero_le (by omega : 0 ≤ index) with ⟨place, rfl⟩
      have inside : place < tape.cells.size := by
        simp only [storedLength] at right
        omega
      rw [cellAt_of_lt tape inside, ← not_isInk_iff]
      exact noInk _ (Array.getElem_mem inside)

theorem firstInk?_eq_none
    {tape : Tape}
    (notFound : tape.firstInk? = none) (index : Int) :
    tape.cellAt index = Symbol.blank :=
  cellAt_eq_blank (Array.findIdx?_eq_none_iff.1 notFound) index

theorem firstInk?_eq_some
    {tape : Tape} {first : Nat}
    (found : tape.firstInk? = some first) :
    tape.cellAt first ≠ Symbol.blank ∧
      ∀ index : Int, index < first → tape.cellAt index = Symbol.blank := by
  rcases Array.findIdx?_eq_some_iff_getElem.1 found with
    ⟨inside, ink, before⟩
  constructor
  · rw [cellAt_of_lt tape inside]
    simpa [isInk] using ink
  · intro index earlier
    by_cases left : index < 0
    · exact cellAt_of_neg left
    · rcases Int.eq_ofNat_of_zero_le (by omega : 0 ≤ index) with ⟨place, rfl⟩
      have placeBefore : place < first := by omega
      rw [cellAt_of_lt tape (placeBefore.trans inside), ← not_isInk_iff]
      simpa using before place placeBefore

theorem lastInk?_eq_none
    {tape : Tape}
    (notFound : tape.lastInk? = none) (index : Int) :
    tape.cellAt index = Symbol.blank := by
  apply cellAt_eq_blank
  simpa [lastInk?] using notFound

theorem lastInk?_eq_some
    {tape : Tape} {last : Nat}
    (found : tape.lastInk? = some last) :
    tape.cellAt last ≠ Symbol.blank ∧
      ∀ index : Int, last < index → tape.cellAt index = Symbol.blank := by
  rcases Option.map_eq_some_iff.1 found with ⟨fromEnd, foundBack, rfl⟩
  rcases Array.findIdx?_eq_some_iff_getElem.1 foundBack with
    ⟨inside, ink, before⟩
  simp only [Array.size_reverse] at inside
  constructor
  · have insideStore : tape.cells.size - 1 - fromEnd < tape.cells.size := by
      omega
    rw [cellAt_of_lt tape insideStore]
    simpa [isInk] using ink
  · intro index later
    by_cases right : (tape.storedLength : Int) ≤ index
    · exact cellAt_of_storedLength_le right
    · rcases Int.eq_ofNat_of_zero_le (by omega : 0 ≤ index) with ⟨place, rfl⟩
      have placeInside : place < tape.cells.size := by
        simp only [storedLength] at right
        omega
      have behind := before (tape.cells.size - 1 - place) (by omega)
      have mirrored :
          tape.cells.size - 1 - (tape.cells.size - 1 - place) = place := by
        omega
      rw [cellAt_of_lt tape placeInside, ← not_isInk_iff]
      simpa [mirrored] using behind

/-! ## The content is the least span -/

/-- The infinite tape with the stored cells in their places, and blank ones around them. -/
def unbounded (tape : Tape) : InfiniteTape where
  cell := tape.cellAt
  head := tape.head

theorem spans_content (tape : Tape) :
    tape.unbounded.Spans tape.contentStart tape.contentEnd where
  first_le_head := by
    simp only [contentStart, unbounded]
    split <;> omega
  head_le_last := by
    simp only [contentEnd, unbounded]
    split <;> omega
  blank_outside := by
    rintro position (before | behind)
    · simp only [contentStart] at before
      split at before
      · next notFound => exact firstInk?_eq_none notFound position
      · next found => exact (firstInk?_eq_some found).2 position (by omega)
    · simp only [contentEnd] at behind
      split at behind
      · next notFound => exact lastInk?_eq_none notFound position
      · next found => exact (lastInk?_eq_some found).2 position (by omega)
  first_needed := by
    simp only [contentStart]
    split
    · exact Or.inl rfl
    · next first found =>
        rcases min_choice (first : Int) tape.head with isInk | isHead
        · rw [isInk]
          exact Or.inr (firstInk?_eq_some found).1
        · exact Or.inl isHead
  last_needed := by
    simp only [contentEnd]
    split
    · exact Or.inl rfl
    · next last found =>
        rcases max_choice (last : Int) tape.head with isInk | isHead
        · rw [isInk]
          exact Or.inr (lastInk?_eq_some found).1
        · exact Or.inl isHead

theorem content_eq_symbolsBetween (tape : Tape) :
    tape.content =
      tape.unbounded.symbolsBetween tape.contentStart tape.contentEnd :=
  rfl

theorem headOffset_eq_sub (tape : Tape) :
    (tape.headOffset : Int) = tape.head - tape.contentStart := by
  have startLe : tape.contentStart ≤ tape.head :=
    tape.spans_content.first_le_head
  simp only [headOffset]
  omega

theorem headOffset_lt_length_content (tape : Tape) :
    tape.headOffset < tape.content.length := by
  have headLe : tape.head ≤ tape.contentEnd :=
    tape.spans_content.head_le_last
  have offset := tape.headOffset_eq_sub
  rw [content_eq_symbolsBetween, InfiniteTape.length_symbolsBetween]
  omega

/-! ## Rendering -/

/-- Where no index is the one in brackets, every cell is shown alone. -/
theorem mapIdx_of_ne_offset
    (shownBlank : Symbol) (offset shift : Nat)
    (symbols : List Symbol)
    (away : ∀ index < symbols.length, index + shift ≠ offset) :
    (symbols.mapIdx fun index symbol =>
        if index + shift = offset then ['[', symbol.present shownBlank, ']']
        else [symbol.present shownBlank]) =
      symbols.map fun symbol => [symbol.present shownBlank] := by
  apply List.ext_getElem
  · simp
  · intro index inside _
    have notHere := away index (by simpa using inside)
    simp [notHere]

theorem mapIdx_bracketed
    (shownBlank : Symbol) (before after : List Symbol) (symbol : Symbol) :
    ((before ++ symbol :: after).mapIdx fun index symbol =>
        if index = before.length then ['[', symbol.present shownBlank, ']']
        else [symbol.present shownBlank]) =
      before.map (fun symbol => [symbol.present shownBlank]) ++
        ['[', symbol.present shownBlank, ']'] ::
          after.map (fun symbol => [symbol.present shownBlank]) := by
  have textsBefore :=
    mapIdx_of_ne_offset shownBlank before.length 0 before
      (by intro index inside; omega)
  have textsAfter :=
    mapIdx_of_ne_offset shownBlank before.length (1 + before.length) after
      (by intro index inside; omega)
  simp only [Nat.add_zero] at textsBefore
  simp only [← Nat.add_assoc] at textsAfter
  simp only [List.mapIdx_append, List.mapIdx_cons, Nat.zero_add, if_true]
  rw [textsBefore, textsAfter]

theorem cellTexts_of_content_eq
    {tape : Tape} {before after : List Symbol} {symbol : Symbol}
    (shownBlank : Symbol)
    (parts : tape.content = before ++ symbol :: after)
    (here : before.length = tape.headOffset) :
    tape.cellTexts shownBlank =
      before.map (fun symbol => [symbol.present shownBlank]) ++
        ['[', symbol.present shownBlank, ']'] ::
          after.map (fun symbol => [symbol.present shownBlank]) := by
  simp only [cellTexts]
  rw [parts, ← here, mapIdx_bracketed]

theorem render_of_content_eq
    {tape : Tape} {before after : List Symbol} {symbol : Symbol}
    (shownBlank : Symbol)
    (parts : tape.content = before ++ symbol :: after)
    (here : before.length = tape.headOffset) :
    tape.render shownBlank =
      String.ofList
        (before.map (·.present shownBlank) ++
          '[' :: symbol.present shownBlank :: ']' ::
            after.map (·.present shownBlank)) := by
  rw [render, cellTexts_of_content_eq shownBlank parts here]
  simp only [List.flatten_append, List.flatten_cons, ← List.flatMap_def,
    ← List.map_eq_flatMap, List.cons_append, List.nil_append]

end Tape

end TapeMachine
