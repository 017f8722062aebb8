import Mathlib.Data.List.Basic
import TapeMachine.Proofs.Tape.Equality

/-!
# What a shown tape tells

Rendering shows the content of a tape with the symbol under the head in
brackets.  The tape can be told from the text, up to equality, if its symbols
can be told from what they are shown as: none of them may look like a bracket,
and only the blank may look like a blank.

A write puts one symbol on the tape and blanks on the way to it.  So symbols
that can be told apart stay so if the written ones can be.
-/

namespace TapeMachine

/-! ## Symbols that can be told from what is shown -/

/-- A symbol is not shown as a bracket, and it looks like a blank only if it is the blank. -/
structure Symbol.Legible (symbol shownBlank : Symbol) : Prop where
  noBracket : symbol.present shownBlank ∉ ['[', ']']
  blank_of_eq : symbol = shownBlank → symbol = Symbol.blank

namespace Symbol

variable {symbol other shownBlank : Symbol}

theorem legible_blank (noBracket : shownBlank ∉ ['[', ']']) :
    Legible blank shownBlank where
  noBracket := by
    rw [present_blank]
    exact noBracket
  blank_of_eq := fun _ => rfl

namespace Legible

/-- Only the blank is shown as a blank. -/
theorem present_eq_iff
    (legible : symbol.Legible shownBlank) :
    symbol.present shownBlank = shownBlank ↔ symbol = blank := by
  constructor
  · intro shown
    by_contra ink
    rw [present_of_ne_blank ink] at shown
    exact ink (legible.blank_of_eq shown)
  · rintro rfl
    exact present_blank shownBlank

theorem eq_of_present_eq
    (legible : symbol.Legible shownBlank)
    (legible' : other.Legible shownBlank)
    (alike : symbol.present shownBlank = other.present shownBlank) :
    symbol = other := by
  by_cases isBlank : symbol = blank
  · rw [isBlank, present_blank] at alike
    rw [isBlank, legible'.present_eq_iff.mp alike.symm]
  · by_cases isBlank' : other = blank
    · rw [isBlank', present_blank] at alike
      exact absurd (legible.present_eq_iff.mp alike) isBlank
    · rwa [present_of_ne_blank isBlank, present_of_ne_blank isBlank'] at alike

theorem eq_of_map_present_eq
    {symbols symbols' : List Symbol}
    (legible : ∀ symbol ∈ symbols, symbol.Legible shownBlank)
    (legible' : ∀ symbol ∈ symbols', symbol.Legible shownBlank)
    (alike :
      symbols.map (·.present shownBlank) =
        symbols'.map (·.present shownBlank)) :
    symbols = symbols' := by
  induction symbols generalizing symbols' with
  | nil => exact (List.map_eq_nil_iff.mp alike.symm).symm
  | cons symbol symbols induction =>
      rcases List.map_eq_cons_iff.mp alike.symm with
        ⟨other, others, rfl, alikeHere, alikeBehind⟩
      rw [List.forall_mem_cons] at legible legible'
      rw [legible.1.eq_of_present_eq legible'.1 alikeHere.symm,
        induction legible.2 legible'.2 alikeBehind.symm]

end Legible

end Symbol

namespace Tape

/-! ## Where the symbols of a tape come from -/

theorem mem_cells_write
    {tape : Tape} {written symbol : Symbol}
    (member : symbol ∈ (tape.write written).cells) :
    symbol = written ∨ symbol = Symbol.blank ∨ symbol ∈ tape.cells := by
  rcases tape with ⟨cells, head⟩
  simp only [write] at member
  split at member
  · simp only [Array.mem_append, Array.mem_replicate] at member
    grind
  · split at member
    · next inside =>
        change symbol ∈ cells.set head.toNat written inside at member
        rcases Array.mem_or_eq_of_mem_set member with before | here
        · exact Or.inr (Or.inr before)
        · exact Or.inl here
    · simp only [Array.mem_push, Array.mem_append, Array.mem_replicate]
        at member
      grind

theorem mem_content
    {tape : Tape} {symbol : Symbol}
    (member : symbol ∈ tape.content) :
    symbol = Symbol.blank ∨ symbol ∈ tape.cells := by
  simp only [content, List.mem_map] at member
  rcases member with ⟨step, -, rfl⟩
  rw [cellAt_eq_getElem?]
  split
  · exact Or.inl rfl
  · rcases found : tape.cells[(tape.contentStart + step).toNat]? with _ | symbol
    · exact Or.inl rfl
    · exact Or.inr (Array.mem_of_getElem? found)

/-! ## The content around the head -/

theorem getElem?_content_headOffset (tape : Tape) :
    tape.content[tape.headOffset]? = some tape.read := by
  have offset := tape.headOffset_eq_sub
  have headLe : tape.head ≤ tape.contentEnd :=
    tape.spans_content.head_le_last
  have atHead : tape.contentStart + (tape.headOffset : Int) = tape.head := by
    omega
  rw [content_eq_symbolsBetween, InfiniteTape.getElem?_symbolsBetween, atHead,
    if_pos headLe]
  rfl

theorem content_eq_append (tape : Tape) :
    tape.content =
      tape.content.take tape.headOffset ++
        tape.read :: tape.content.drop (tape.headOffset + 1) := by
  rcases List.getElem?_eq_some_iff.mp tape.getElem?_content_headOffset with
    ⟨inside, here⟩
  rw [← here, List.getElem_cons_drop, List.take_append_drop]

theorem length_take_headOffset (tape : Tape) :
    (tape.content.take tape.headOffset).length = tape.headOffset :=
  List.length_take_of_le tape.headOffset_lt_length_content.le

/-- The content is shown symbol by symbol, the one under the head in brackets. -/
theorem render_eq (tape : Tape) (shownBlank : Symbol) :
    tape.render shownBlank =
      String.ofList
        ((tape.content.take tape.headOffset).map (·.present shownBlank) ++
          '[' :: tape.read.present shownBlank :: ']' ::
            (tape.content.drop (tape.headOffset + 1)).map
              (·.present shownBlank)) :=
  render_of_content_eq shownBlank tape.content_eq_append
    tape.length_take_headOffset

theorem map_present_of_blank_not_mem
    {symbols : List Symbol}
    (ink : Symbol.blank ∉ symbols) (shownBlank : Symbol) :
    symbols.map (·.present shownBlank) = symbols := by
  have unchanged :
      ∀ symbol ∈ symbols, symbol.present shownBlank = symbol := by
    intro symbol member
    apply Symbol.present_of_ne_blank
    rintro rfl
    exact ink member
  exact (List.map_congr_left unchanged).trans (List.map_id _)

/-- Where no cell of the content is blank, nothing is shown but its symbols and the brackets. -/
theorem mem_content_of_mem_render
    {tape : Tape} {shownBlank symbol : Symbol}
    (ink : Symbol.blank ∉ tape.content)
    (member : symbol ∈ (tape.render shownBlank).toList) :
    symbol ∈ ['[', ']'] ∨ symbol ∈ tape.content := by
  have composed := tape.content_eq_append
  have inkOfParts := ink
  rw [composed, List.mem_append, List.mem_cons, not_or, not_or] at inkOfParts
  rcases inkOfParts with ⟨inkBefore, inkHere, inkBehind⟩
  rw [render_eq, String.toList_ofList,
    map_present_of_blank_not_mem inkBefore,
    map_present_of_blank_not_mem inkBehind,
    Symbol.present_of_ne_blank (Ne.symm inkHere)] at member
  rw [composed]
  simp only [List.mem_append, List.mem_cons, List.not_mem_nil, or_false] at member ⊢
  tauto

/-! ## Telling a tape from its text -/

/--
If no cell is shown as a bracket, the first bracket of the text stands at the
head, and the text tells the place of the head and what every cell is shown as.
-/
theorem shown_eq_of_render_eq
    {left right : Tape} {shownBlank : Symbol}
    (noneShown : '[' ∉ left.content.map (·.present shownBlank))
    (alike : left.render shownBlank = right.render shownBlank) :
    left.headOffset = right.headOffset ∧
      left.content.map (·.present shownBlank) =
        right.content.map (·.present shownBlank) := by
  rw [left.content_eq_append, List.map_append, List.map_cons,
    List.mem_append, List.mem_cons, not_or, not_or] at noneShown
  rcases noneShown with ⟨noneBefore, notHere, noneBehind⟩
  have noneFromHead :
      '[' ∉ left.read.present shownBlank :: ']' ::
        (left.content.drop (left.headOffset + 1)).map
          (·.present shownBlank) := by
    rw [List.mem_cons, List.mem_cons]
    rintro (here | closing | behind)
    · exact notHere here
    · cases closing
    · exact noneBehind behind
  rw [render_eq, render_eq, String.ofList_inj,
    List.append_cons_inj_of_notMem noneBefore noneFromHead,
    List.cons.injEq, List.cons_inj_right] at alike
  rcases alike with ⟨alikeBefore, -, alikeHere, alikeBehind⟩
  constructor
  · have sameLength := congrArg List.length alikeBefore
    rwa [List.length_map, List.length_map, length_take_headOffset,
      length_take_headOffset] at sameLength
  · rw [left.content_eq_append, right.content_eq_append, List.map_append,
      List.map_append, List.map_cons, List.map_cons, alikeBefore, alikeHere,
      alikeBehind]

/-- All symbols stored on the tape are legible. -/
def Legible (tape : Tape) (shownBlank : Symbol) : Prop :=
  ∀ symbol ∈ tape.cells, symbol.Legible shownBlank

namespace Legible

variable
    {tape : Tape}
    {shownBlank : Symbol}

theorem content
    (legible : tape.Legible shownBlank) (noBracket : shownBlank ∉ ['[', ']'])
    {symbol : Symbol} (member : symbol ∈ tape.content) :
    symbol.Legible shownBlank := by
  rcases mem_content member with rfl | stored
  · exact Symbol.legible_blank noBracket
  · exact legible symbol stored

theorem apply
    (legible : tape.Legible shownBlank) (noBracket : shownBlank ∉ ['[', ']'])
    {written : Symbol} (legibleWritten : written.Legible shownBlank)
    (direction : Direction) :
    (tape.apply written direction).Legible shownBlank := by
  intro symbol member
  rcases mem_cells_write member with rfl | rfl | before
  · exact legibleWritten
  · exact Symbol.legible_blank noBracket
  · exact legible symbol before

theorem render_inj
    {left right : Tape}
    (legible : left.Legible shownBlank) (legible' : right.Legible shownBlank)
    (noBracket : shownBlank ∉ ['[', ']']) :
    left.render shownBlank = right.render shownBlank ↔
      (left == right) = true := by
  constructor
  · intro alike
    have noneShown :
        '[' ∉ left.content.map (·.present shownBlank) := by
      intro shown
      rcases List.mem_map.mp shown with ⟨symbol, member, isBracket⟩
      have plain := (legible.content noBracket member).noBracket
      simp [isBracket] at plain
    rcases shown_eq_of_render_eq noneShown alike with
      ⟨sameOffset, alikeContent⟩
    rw [beq_iff_content]
    exact
      ⟨sameOffset,
        Symbol.Legible.eq_of_map_present_eq
          (fun _ member => legible.content noBracket member)
          (fun _ member => legible'.content noBracket member) alikeContent⟩
  · intro equal
    exact render_eq_of_beq equal shownBlank

end Legible

end Tape

end TapeMachine
