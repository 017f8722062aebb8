import TapeMachine.Tape.Content
import TapeMachine.Tape.Lemmas

/-!
# Tapes with other symbols

Symbols can be replaced on a whole tape, cell by cell.  If the blank stays what it
is, every operation commutes with the replacement, down to the store.  If moreover
no two symbols become one, then no symbol becomes blank, so the same cells make up
the content.
-/

namespace TapeMachine.Tape

/-- The tape with every stored symbol replaced, the head where it is. -/
def mapSymbols (tape : Tape) (rename : Symbol → Symbol) : Tape where
  cells := tape.cells.map rename
  head := tape.head

section Operations

variable
    {rename : Symbol → Symbol}

@[simp]
theorem storedLength_mapSymbols
    (tape : Tape) :
    (tape.mapSymbols rename).storedLength = tape.storedLength :=
  Array.size_map

theorem ofSymbols_map (symbols : List Symbol) :
    ofSymbols (symbols.map rename) =
      (ofSymbols symbols).mapSymbols rename := by
  simp [ofSymbols, mapSymbols]

theorem shift_mapSymbols (tape : Tape) (direction : Direction) :
    (tape.mapSymbols rename).shift direction =
      (tape.shift direction).mapSymbols rename :=
  rfl

theorem cellAt_mapSymbols
    (keepsBlank : rename Symbol.blank = Symbol.blank)
    (tape : Tape) (index : Int) :
    (tape.mapSymbols rename).cellAt index =
      rename (tape.cellAt index) := by
  rw [cellAt_eq_getElem?, cellAt_eq_getElem?]
  split
  · exact keepsBlank.symm
  · rw [mapSymbols, Array.getElem?_map]
    cases tape.cells[index.toNat]? with
    | none => exact keepsBlank.symm
    | some symbol => rfl

theorem read_mapSymbols
    (keepsBlank : rename Symbol.blank = Symbol.blank) (tape : Tape) :
    (tape.mapSymbols rename).read = rename tape.read :=
  cellAt_mapSymbols keepsBlank tape tape.head

theorem write_mapSymbols
    (keepsBlank : rename Symbol.blank = Symbol.blank)
    (tape : Tape) (symbol : Symbol) :
    (tape.mapSymbols rename).write (rename symbol) =
      (tape.write symbol).mapSymbols rename := by
  rcases tape with ⟨cells, head⟩
  simp only [write, mapSymbols, Array.size_map]
  split
  · simp [keepsBlank]
  · split
    · simp
    · simp [keepsBlank]

theorem apply_mapSymbols
    (keepsBlank : rename Symbol.blank = Symbol.blank)
    (tape : Tape) (symbol : Symbol) (direction : Direction) :
    (tape.mapSymbols rename).apply (rename symbol) direction =
      (tape.apply symbol direction).mapSymbols rename := by
  rw [apply, apply, write_mapSymbols keepsBlank, shift_mapSymbols]

end Operations

section Content

variable
    {rename : Symbol → Symbol}
    (keepsBlank : rename Symbol.blank = Symbol.blank)
    (injective : Function.Injective rename)

include keepsBlank injective

theorem isInk_comp : isInk ∘ rename = isInk := by
  funext symbol
  have staysInk : rename symbol = Symbol.blank ↔ symbol = Symbol.blank := by
    rw [← injective.eq_iff (a := symbol), keepsBlank]
  rw [Bool.eq_iff_iff]
  simp [isInk, staysInk]

theorem contentStart_mapSymbols (tape : Tape) :
    (tape.mapSymbols rename).contentStart = tape.contentStart := by
  have sameFirst : (tape.mapSymbols rename).firstInk? = tape.firstInk? := by
    rw [firstInk?, mapSymbols, Array.findIdx?_map,
      isInk_comp keepsBlank injective]
    rfl
  rw [contentStart, contentStart, sameFirst]
  rfl

theorem contentEnd_mapSymbols (tape : Tape) :
    (tape.mapSymbols rename).contentEnd = tape.contentEnd := by
  have sameLast : (tape.mapSymbols rename).lastInk? = tape.lastInk? := by
    rw [lastInk?, mapSymbols, ← Array.map_reverse, Array.findIdx?_map,
      isInk_comp keepsBlank injective, Array.size_map]
    rfl
  rw [contentEnd, contentEnd, sameLast]
  rfl

theorem content_mapSymbols (tape : Tape) :
    (tape.mapSymbols rename).content = tape.content.map rename := by
  rw [content, content, contentStart_mapSymbols keepsBlank injective,
    contentEnd_mapSymbols keepsBlank injective, List.map_map]
  apply List.map_congr_left
  intro step _
  exact cellAt_mapSymbols keepsBlank tape (tape.contentStart + step)

theorem headOffset_mapSymbols (tape : Tape) :
    (tape.mapSymbols rename).headOffset = tape.headOffset := by
  rw [headOffset, headOffset, contentStart_mapSymbols keepsBlank injective]
  rfl

end Content

end TapeMachine.Tape
