/-!
# Symbols

A tape symbol is any character.  One of them, U+0000, is the blank: it is what
a cell holds before anything was written to it.  People rarely want to read a
zero character, so a blank cell is always shown as some other symbol.
-/

namespace TapeMachine

/-- A tape symbol is any character. -/
abbrev Symbol := Char

namespace Symbol

/-- The symbol of every cell that was never written. -/
def blank : Symbol := '\x00'

/-- How a blank cell is shown where no description names a symbol for it. -/
def shownBlank : Symbol := '_'

/-- Shows the blank as `shown` and every other symbol as itself. -/
def present (symbol shown : Symbol) : Symbol :=
  if symbol = blank then shown else symbol

@[simp]
theorem present_blank (shown : Symbol) : present blank shown = shown := by
  simp [present]

theorem present_of_ne_blank {symbol shown : Symbol}
    (ink : symbol ≠ blank) : present symbol shown = symbol := by
  simp [present, ink]

end Symbol

end TapeMachine
