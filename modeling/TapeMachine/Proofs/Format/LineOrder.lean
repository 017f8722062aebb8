import Mathlib.Data.String.Basic
import TapeMachine.Proofs.Format.Joining

/-!
# The order of the lines

Each line of a description file says something by itself, and it matters little
where it stands: the transitions follow the order of their lines, and nothing
else does.  Lines rearranged so that the transitions keep their order make the
same description.

The two ends of the text are an exception.  White space there is left out, of
more kinds than separate the parts of a line, so a line that begins or ends with
other white space than gaps may not say the same at the edge of the text as
inside it.
-/

namespace TapeMachine

namespace Format

/-! ## Texts of lines that say something -/

/-- A line of a description file with the statement it makes. -/
structure StatedLine where
  text : String
  statement : Statement
  isLine : IsLineText text.toList
  makes : LineMakes text.toList statement

namespace StatedLine

/-- The line of a text without line ends from which a statement is read. -/
def ofRead
    (text : String) (statement : Statement)
    (noEnd : text.toList.all (!isLineEnd ·) = true)
    (read : Statement.read text.toList = .ok statement) :
    StatedLine where
  text
  statement
  isLine := by simpa [IsLineText] using noEnd
  makes := lineMakes_of_read read

/-- Whether the line makes a transition. -/
def isTransition (line : StatedLine) : Bool :=
  line.statement.transition?.isSome

/-- The text of some lines, with a line feed between any two. -/
def textOf (lines : List StatedLine) : String :=
  "\n".intercalate (lines.map text)

/-- The statements that some lines make. -/
def statements (lines : List StatedLine) : List Statement :=
  lines.map statement

theorem toList_textOf (lines : List StatedLine) :
    (textOf lines).toList = joined (lines.map (·.text.toList)) := by
  rw [textOf, String.toList_intercalate, List.map_map]
  rfl

theorem forall₂_conveys (lines : List StatedLine) :
    List.Forall₂ Conveys (lines.map (·.text.toList)) (statements lines) := by
  rw [statements, List.forall₂_map_left_iff, List.forall₂_map_right_iff,
    List.forall₂_same]
  intro line _
  exact ⟨line.isLine, line.makes⟩

/-- Only the lines that make transitions matter for the transitions. -/
theorem filterMap_transition?_statements (lines : List StatedLine) :
    (statements lines).filterMap Statement.transition? =
      (lines.filter isTransition).filterMap (·.statement.transition?) := by
  rw [statements, List.filterMap_map, List.filterMap_filter]
  apply List.filterMap_congr
  intro line _
  cases made : line.statement.transition? <;> simp [isTransition, made]

end StatedLine

/-! ## Sizes -/

theorem joined_append_feed
    {lines : List (List Char)}
    (nonempty : lines ≠ []) :
    joined lines ++ ['\n'] = lines.flatMap (· ++ ['\n']) := by
  induction lines with
  | nil => exact (nonempty rfl).elim
  | cons line more induction =>
      cases more with
      | nil => simp
      | cons next more =>
          rw [joined_cons_cons, List.append_assoc, List.cons_append,
            induction (List.cons_ne_nil _ _), List.flatMap_cons]
          simp

theorem perm_joined
    {lines lines' : List (List Char)}
    (perm : lines.Perm lines') :
    (joined lines).Perm (joined lines') := by
  by_cases nonempty : lines = []
  · subst nonempty
    rw [perm.nil_eq]
  · have nonempty' : lines' ≠ [] := by
      rintro rfl
      exact nonempty perm.eq_nil
    rw [← List.perm_append_right_iff ['\n'], joined_append_feed nonempty,
      joined_append_feed nonempty']
    exact perm.flatMap_right _

theorem utf8Len_of_perm
    {text text' : List Char}
    (perm : text.Perm text') :
    String.utf8Len text = String.utf8Len text' := by
  induction perm with
  | nil => rfl
  | cons c _ induction => simp [induction]
  | swap c c' text => simp only [String.utf8Len_cons]; omega
  | trans _ _ first second => exact first.trans second

namespace StatedLine

theorem utf8ByteSize_textOf_of_perm
    {lines lines' : List StatedLine}
    (perm : lines.Perm lines') :
    (textOf lines).utf8ByteSize = (textOf lines').utf8ByteSize := by
  rw [← String.utf8Len_toList, ← String.utf8Len_toList, toList_textOf,
    toList_textOf]
  exact utf8Len_of_perm (perm_joined (perm.map _))

end StatedLine

/-! ## Rearranging -/

/-- Where every keyword is given once, the headers are those of a description. -/
theorem exists_perm_headersOf
    {headers : List Header}
    (once : (headers.map Header.keyword).Perm Keyword.all)
    (transitions : List Transition) :
    ∃ description : Description,
      headers.Perm (headersOf description) ∧
        description.transitions = transitions := by
  have given {Value : Type} (make : Value → Header) (keyword : Keyword)
      (isMade :
        ∀ header : Header, header.keyword = keyword →
          ∃ value, header = make value) :
      ∃ value, make value ∈ headers := by
    have listed : keyword ∈ headers.map Header.keyword := by
      rw [once.mem_iff]
      cases keyword <;> decide
    rcases List.mem_map.mp listed with ⟨header, member, isKeyword⟩
    rcases isMade header isKeyword with ⟨value, rfl⟩
    exact ⟨value, member⟩
  rcases given .start .start (by rintro ⟨⟩ <;> simp [Header.keyword]) with
    ⟨start, hasStart⟩
  rcases given .accept .accept (by rintro ⟨⟩ <;> simp [Header.keyword]) with
    ⟨accept, hasAccept⟩
  rcases given .reject .reject (by rintro ⟨⟩ <;> simp [Header.keyword]) with
    ⟨reject, hasReject⟩
  rcases given .blank .blank (by rintro ⟨⟩ <;> simp [Header.keyword]) with
    ⟨blank, hasBlank⟩
  have distinct : (headers.map Header.keyword).Nodup := by
    rw [once.nodup_iff]
    decide
  exact
    ⟨{ start, accept, reject, blank, transitions },
      perm_headersOf_iff.mpr
        ⟨distinct, by simp [headersOf, hasStart, hasAccept, hasReject, hasBlank]⟩,
      rfl⟩

/--
Lines in which each header is given once, of a text that is not too large, and
the same lines in another order, but with the transitions in the same one.
-/
structure Rearranges (lines lines' : List StatedLine) : Prop where
  once :
    (((StatedLine.statements lines).filterMap Statement.header?).map
      Header.keyword).Perm Keyword.all
  perm : lines.Perm lines'
  inOrder :
    lines.filter StatedLine.isTransition =
      lines'.filter StatedLine.isTransition
  within : (StatedLine.textOf lines).utf8ByteSize ≤ 65536

end Format

namespace Description

open Format

theorem parse_textOf
    {lines : List StatedLine} {description : Description}
    (within : (StatedLine.textOf lines).utf8ByteSize ≤ sizeLimit)
    (edges : KeepsEdges (StatedLine.statements lines))
    (headers :
      ((StatedLine.statements lines).filterMap Statement.header?).Perm
        (headersOf description))
    (transitions :
      (StatedLine.statements lines).filterMap Statement.transition? =
        description.transitions) :
    parse (StatedLine.textOf lines) = .ok description :=
  parse_of_conveyed within (StatedLine.toList_textOf lines)
    (StatedLine.forall₂_conveys lines) edges headers transitions

/--
The order of the lines does not matter beyond the order of the transitions, as
long as white space at the edges of the texts takes nothing from a statement.
-/
theorem parse_textOf_of_rearranges
    (lines lines' : List StatedLine)
    (rearranges : Rearranges lines lines')
    (edges : KeepsEdges (StatedLine.statements lines))
    (edges' : KeepsEdges (StatedLine.statements lines')) :
    ∃ description : Description,
      parse (StatedLine.textOf lines) = .ok description ∧
      parse (StatedLine.textOf lines') = .ok description := by
  rcases rearranges with ⟨once, perm, inOrder, within⟩
  have within' : (StatedLine.textOf lines').utf8ByteSize ≤ sizeLimit := by
    rwa [← StatedLine.utf8ByteSize_textOf_of_perm perm]
  rcases exists_perm_headersOf once
      ((StatedLine.statements lines).filterMap Statement.transition?) with
    ⟨description, headers, transitions⟩
  refine
    ⟨description, parse_textOf within edges headers transitions.symm,
      parse_textOf within' edges' ?_ ?_⟩
  · have permStatements :
        (StatedLine.statements lines).Perm (StatedLine.statements lines') :=
      perm.map _
    exact (permStatements.filterMap _).symm.trans headers
  · rw [transitions, StatedLine.filterMap_transition?_statements,
      StatedLine.filterMap_transition?_statements, inOrder]

/-- The headers of a file, a comment that ends with white space, and two transitions. -/
def scattered : List StatedLine :=
  [.ofRead "\tq 1 -> a 1 >" (.transition ⟨"q", '1', "a", '1', .right⟩)
      (by decide +kernel) (by decide +kernel),
    .ofRead "blank : \u00a0" (.header (.blank '\u00a0'))
      (by decide +kernel) (by decide +kernel),
    .ofRead "reject: r" (.header (.reject "r"))
      (by decide +kernel) (by decide +kernel),
    .ofRead "" .empty (by decide +kernel) (by decide +kernel),
    .ofRead "q \u00a0->q \u00a0^" (.transition ⟨"q", '\u00a0', "q", '\u00a0', .stay⟩)
      (by decide +kernel) (by decide +kernel),
    .ofRead "accept: a" (.header (.accept "a"))
      (by decide +kernel) (by decide +kernel),
    .ofRead "start: \u00a0q" (.header (.start "\u00a0q"))
      (by decide +kernel) (by decide +kernel),
    .ofRead "# \u2028" .comment (by decide +kernel) (by decide +kernel)]

/-- The same lines, the transitions behind the others. -/
def gathered : List StatedLine :=
  scattered.filter (!·.isTransition) ++
    scattered.filter StatedLine.isTransition

theorem parse_textOf_of_rearranges_scattered :
    Rearranges scattered gathered ∧
    KeepsEdges (StatedLine.statements scattered) ∧
    KeepsEdges (StatedLine.statements gathered) ∧
    ∃ description : Description,
      parse (StatedLine.textOf scattered) = .ok description ∧
      parse (StatedLine.textOf gathered) = .ok description := by
  have rearranges : Rearranges scattered gathered :=
    { once := by decide
      perm :=
        (List.filter_append_perm _ _).symm.trans List.perm_append_comm
      inOrder := rfl
      within := by decide +kernel }
  have edges : KeepsEdges (StatedLine.statements scattered) :=
    { begins := by rintro made ⟨⟩; simp; decide
      ends := by rintro made ⟨⟩ }
  have edges' : KeepsEdges (StatedLine.statements gathered) :=
    { begins := by rintro made ⟨⟩
      ends := by rintro made ⟨⟩ }
  exact
    ⟨rearranges, edges, edges',
      parse_textOf_of_rearranges scattered gathered rearranges edges edges'⟩

/-- Four headers, of which the last ends with white space that is no gap. -/
def wideBlank : List StatedLine :=
  [.ofRead "start: q" (.header (.start "q"))
      (by decide +kernel) (by decide +kernel),
    .ofRead "accept: a" (.header (.accept "a"))
      (by decide +kernel) (by decide +kernel),
    .ofRead "reject: r" (.header (.reject "r"))
      (by decide +kernel) (by decide +kernel),
    .ofRead "blank: \u00a0" (.header (.blank '\u00a0'))
      (by decide +kernel) (by decide +kernel)]

/-- Four headers, and a transition that begins with white space that is no gap. -/
def wideState : List StatedLine :=
  [.ofRead "start: \u00a0q" (.header (.start "\u00a0q"))
      (by decide +kernel) (by decide +kernel),
    .ofRead "accept: a" (.header (.accept "a"))
      (by decide +kernel) (by decide +kernel),
    .ofRead "reject: r" (.header (.reject "r"))
      (by decide +kernel) (by decide +kernel),
    .ofRead "blank: _" (.header (.blank '_'))
      (by decide +kernel) (by decide +kernel),
    .ofRead "\u00a0q 1 -> a 1 >" (.transition ⟨"\u00a0q", '1', "a", '1', .right⟩)
      (by decide +kernel) (by decide +kernel)]

/-- A header may be refused at the end, and a transition may be another one at the beginning. -/
theorem order_matters_at_edges :
    (Rearranges wideBlank.reverse wideBlank ∧
      (∃ description : Description,
        parse (StatedLine.textOf wideBlank.reverse) = .ok description) ∧
      ∀ description : Description,
        parse (StatedLine.textOf wideBlank) ≠ .ok description) ∧
    Rearranges wideState wideState.reverse ∧
      ∃ description description' : Description,
        parse (StatedLine.textOf wideState) = .ok description ∧
        parse (StatedLine.textOf wideState.reverse) = .ok description' ∧
        description ≠ description' := by
  refine ⟨⟨?_, ?_, ?_⟩, ?_, ?_⟩
  · exact
      { once := by decide
        perm := List.reverse_perm _
        inOrder := rfl
        within := by decide +kernel }
  · refine ⟨⟨"q", "a", "r", '\u00a0', []⟩, by decide +kernel⟩
  · have refused :
        parse (StatedLine.textOf wideBlank) =
          .error (.report
            { place := { line := 4, column := 7 }
              endColumn? := none
              excerpt := "blank:".toList
              complaint := .expected [.symbol] }) := by
      decide +kernel
    intro description parsed
    rw [refused] at parsed
    cases parsed
  · exact
      { once := by decide
        perm := (List.reverse_perm _).symm
        inOrder := rfl
        within := by decide +kernel }
  · refine
      ⟨⟨"\u00a0q", "a", "r", '_', [⟨"\u00a0q", '1', "a", '1', .right⟩]⟩,
        ⟨"\u00a0q", "a", "r", '_', [⟨"q", '1', "a", '1', .right⟩]⟩, ?_, ?_, ?_⟩
    · decide +kernel
    · decide +kernel
    · decide

end Description

end TapeMachine
