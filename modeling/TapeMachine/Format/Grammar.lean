import TapeMachine.Format.Statement

/-!
# The grammar of a line

Which lines make which statements, said without a reader: a line is a sequence
of tokens with gaps between them.  A gap may be empty, except between a state
name and a symbol that could belong to the name.  A line that opens like a
header is never a transition.
-/

namespace TapeMachine.Format

/-- A possibly empty sequence of spaces and tabs. -/
def IsGapText (text : List Char) : Prop :=
  ∀ c ∈ text, isGap c = true

/-- A state name: not empty, and without spaces, tabs and colons. -/
def IsStateName (text : List Char) : Prop :=
  text ≠ [] ∧ ∀ c ∈ text, isNameChar c = true

/-- A symbol: no space and no tab. -/
def IsSymbol (c : Char) : Prop :=
  isGap c = false

/-- A state name, a gap, and a symbol; the gap may be empty only before a colon. -/
inductive StateThenSymbol : String → Symbol → List Char → Prop where
  | intro {state gap : List Char} {symbol : Symbol}
      (isName : IsStateName state) (isGap : IsGapText gap) (isSymbol : IsSymbol symbol)
      (apart : gap ≠ [] ∨ symbol = ':') :
      StateThenSymbol (String.ofList state) symbol (state ++ gap ++ [symbol])

/-- The value of a header, as it is written. -/
inductive HeaderValue : Header → List Char → Prop where
  | start {state : List Char} (isName : IsStateName state) :
      HeaderValue (.start (String.ofList state)) state
  | accept {state : List Char} (isName : IsStateName state) :
      HeaderValue (.accept (String.ofList state)) state
  | reject {state : List Char} (isName : IsStateName state) :
      HeaderValue (.reject (String.ofList state)) state
  | blank {symbol : Symbol} (isSymbol : IsSymbol symbol) :
      HeaderValue (.blank symbol) [symbol]

/-- A line without gaps at its ends makes a statement. -/
inductive Makes : List Char → Statement → Prop where
  | empty : Makes [] .empty
  | comment {text : List Char} : Makes ('#' :: text) .comment
  | header {made : Header} {value before after : List Char}
      (gapBefore : IsGapText before) (gapAfter : IsGapText after)
      (written : HeaderValue made value) :
      Makes (made.keyword.letters ++ before ++ ':' :: (after ++ value)) (.header made)
  | transition {made : Transition} {left right first second third : List Char}
      (reads : StateThenSymbol made.state made.symbol left)
      (writes : StateThenSymbol made.next made.write right)
      (gapFirst : IsGapText first) (gapSecond : IsGapText second) (gapThird : IsGapText third)
      (noComment : made.state.toList.head? ≠ some '#')
      (noHeader : ¬ (made.symbol = ':' ∧ ∃ keyword : Keyword, made.state = keyword.name)) :
      Makes (left ++ first ++ '-' :: '>' :: (second ++ right ++ third ++ [made.direction.mark]))
        (.transition made)

/-- A line makes a statement once the gaps at its ends are left out. -/
def LineMakes (line : List Char) (statement : Statement) : Prop :=
  Makes (trimGaps line) statement

end TapeMachine.Format
