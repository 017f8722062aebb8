/-!
# Control sequences

A terminal does not show every character it is sent.  Control characters act on
it, and an escape character opens a sequence of characters that tell it
something: a short sequence ends at once, a control sequence at a letter, and a
string only at the next escape character or at a terminator of its own.  The
plain form of a text is what is left of it without all these.

White space stays.  It stays even inside a sequence that is still open, as long
as that is no string, and then so does the text behind it, up to the next
control character; from there the open sequence goes on.
-/

namespace TapeMachine.Text

/-- Where a text stands among control sequences. -/
inductive SequenceStage where
  | plain
  | escape
  /-- Behind an escape character and marks that choose a set of sequences. -/
  | escapeMark
  /-- In a control sequence, which a letter ends. -/
  | control
  | device
  | deviceParameter
  | deviceMark
  | string
  /-- In the text of a title, which a bell ends. -/
  | title
  deriving DecidableEq

/-- Whether a character has a code of its own in seven bits. -/
def isAscii (c : Char) : Bool :=
  c.toNat < 0x80

/-- Whether a character is a control that moves on like white space does. -/
def isMovingControl (c : Char) : Bool :=
  c == '\t' || c == '\n' || c == '\x0c' || c == '\r'

/-- Whether the UTF-8 form of a character has the byte that terminates strings. -/
def hasTerminator (c : Char) : Bool :=
  (String.utf8EncodeChar c).contains 0x9c

namespace SequenceStage

/-- The stage behind an ASCII character that belongs to a stage alone. -/
def within (stage : SequenceStage) (c : Char) : SequenceStage :=
  let code := c.toNat
  let skipped := code < 0x20 || code == 0x7f
  match stage with
  | plain => plain
  | escape =>
    if skipped then escape
    else if code < 0x30 then escapeMark
    else if c = '[' then control
    else if c = ']' then title
    else if c = 'P' then device
    else if c = 'X' ∨ c = '^' ∨ c = '_' then string
    else plain
  | escapeMark => if skipped || code < 0x30 then escapeMark else plain
  | control => if skipped || code < 0x40 then control else plain
  | device =>
    if skipped then device
    else if code < 0x30 then deviceMark
    else if code < 0x40 then deviceParameter
    else string
  | deviceParameter =>
    if skipped then deviceParameter
    else if code < 0x30 then deviceMark
    else if code < 0x3c then deviceParameter
    else string
  | deviceMark => if skipped || code < 0x30 then deviceMark else string
  | string => string
  | title => if code = 0x7 then plain else title

/-- The stage behind a character that is not shown. -/
def next (stage : SequenceStage) (c : Char) : SequenceStage :=
  if !isAscii c then
    match stage with
    | string => if hasTerminator c then plain else string
    | other => other
  else if c = '\x18' ∨ c = '\x1a' then plain
  else if c = '\x1b' then escape
  else stage.within c

/-- Whether a character is shown at a stage. -/
def shows (stage : SequenceStage) (c : Char) : Bool :=
  match stage with
  | plain => isMovingControl c || (0x20 ≤ c.toNat && c.toNat != 0x7f)
  | escape | escapeMark | control => isMovingControl c
  | device | deviceParameter | deviceMark | string | title => false

end SequenceStage

/--
What a text shows from a stage on.  Behind a character that was shown, others
are shown as if no sequence were open; one that is not ASCII ends the sequence.
-/
def shownFrom (stage : SequenceStage) (showing : Bool) : List Char → List Char
  | [] => []
  | c :: rest =>
    if (if showing then SequenceStage.plain else stage).shows c then
      c :: shownFrom (if isAscii c then stage else .plain) true rest
    else shownFrom (stage.next c) false rest

/-- A text without its control characters and control sequences. -/
def withoutControls (text : List Char) : List Char :=
  shownFrom .plain false text

end TapeMachine.Text
