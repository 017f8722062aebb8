import TapeMachine.Format.Printer
import TapeMachine.Proofs.Format.Acceptance

/-!
# Descriptions survive being written and read

The standard form of a description is a text like any other, so it is read by
the grammar of lines.  It makes the description again if no name and no symbol
can be mistaken for something else where it stands: a name must not end early, a
line must not end early, and a transition must not look like a comment or like a
header.  One more thing can go wrong.  White space at the end of a text is left
out, and the last line may end in a symbol that is white space.

Reading never yields a description that breaks one of the conditions on names and
symbols, so apart from its last line and its size such a description can always
be written and read again.
-/

namespace TapeMachine

/-! ## What can be written -/

/-- A name that is not empty and holds no gap, no line end and no colon. -/
def IsWritableName (name : String) : Prop :=
  name ≠ "" ∧ ∀ c ∈ name.toList, c ∉ [' ', '\t', '\r', '\n', ':']

/-- A symbol that is no gap and no line end. -/
def IsWritableSymbol (symbol : Symbol) : Prop :=
  symbol ∉ [' ', '\t', '\r', '\n']

/-- A transition whose line is neither a comment nor a header, of writable parts. -/
structure Transition.Writable (transition : Transition) : Prop where
  state : IsWritableName transition.state
  symbol : IsWritableSymbol transition.symbol
  next : IsWritableName transition.next
  write : IsWritableSymbol transition.write
  noComment : transition.state.toList.head? ≠ some '#'
  noHeader :
    ¬ (transition.symbol = ':' ∧
      transition.state ∈ ["start", "accept", "reject", "blank"])

instance : DecidablePred IsWritableName :=
  fun name =>
    -- Only the letters of the name are tested, not every character for being one of them.
    decidable_of_iff
      (name ≠ "" ∧
        name.toList.all (· ∉ [' ', '\t', '\r', '\n', ':']) = true)
      (by simp only [IsWritableName, List.all_eq_true, decide_eq_true_eq])

instance : DecidablePred IsWritableSymbol :=
  fun symbol => inferInstanceAs (Decidable (symbol ∉ [' ', '\t', '\r', '\n']))

instance : DecidablePred Transition.Writable :=
  fun transition =>
    decidable_of_iff
      (IsWritableName transition.state ∧ IsWritableSymbol transition.symbol ∧
        IsWritableName transition.next ∧ IsWritableSymbol transition.write ∧
        transition.state.toList.head? ≠ some '#' ∧
        ¬ (transition.symbol = ':' ∧
          transition.state ∈ ["start", "accept", "reject", "blank"]))
      ⟨fun ⟨state, symbol, next, write, noComment, noHeader⟩ =>
          { state, symbol, next, write, noComment, noHeader },
        fun writable =>
          ⟨writable.state, writable.symbol, writable.next, writable.write,
            writable.noComment, writable.noHeader⟩⟩

/-- A description of writable parts. -/
structure Description.Writable (description : Description) : Prop where
  start : IsWritableName description.start
  accept : IsWritableName description.accept
  reject : IsWritableName description.reject
  blank : IsWritableSymbol description.blank
  transitions : ∀ transition ∈ description.transitions, transition.Writable

instance : DecidablePred Description.Writable :=
  fun description =>
    decidable_of_iff
      (IsWritableName description.start ∧ IsWritableName description.accept ∧
        IsWritableName description.reject ∧
        IsWritableSymbol description.blank ∧
        ∀ transition ∈ description.transitions, transition.Writable)
      ⟨fun ⟨start, accept, reject, blank, transitions⟩ =>
          { start, accept, reject, blank, transitions },
        fun writable =>
          ⟨writable.start, writable.accept, writable.reject, writable.blank,
            writable.transitions⟩⟩

namespace Format

theorem isWritableName_iff
    {name : String} :
    IsWritableName name ↔
      IsStateName name.toList ∧ IsLineText name.toList := by
  have sameClass (c : Char) :
      c ∉ [' ', '\t', '\r', '\n', ':'] ↔
        isNameChar c = true ∧ isLineEnd c = false := by
    simp only [isNameChar, isGap, isLineEnd]
    grind
  simp only [IsWritableName, IsStateName, IsLineText, sameClass,
    ← String.toList_eq_nil_iff, ne_eq]
  grind

theorem isWritableSymbol_iff
    {symbol : Symbol} :
    IsWritableSymbol symbol ↔
      IsSymbol symbol ∧ isLineEnd symbol = false := by
  simp only [IsWritableSymbol, IsSymbol, isGap, isLineEnd]
  grind

theorem exists_keyword_name_iff
    {state : String} :
    (∃ keyword : Keyword, state = keyword.name) ↔
      state ∈ ["start", "accept", "reject", "blank"] := by
  constructor
  · rintro ⟨keyword, rfl⟩
    cases keyword <;> decide
  · intro member
    simp only [List.mem_cons, List.not_mem_nil, or_false] at member
    rcases member with rfl | rfl | rfl | rfl
    · exact ⟨.start, by decide⟩
    · exact ⟨.accept, by decide⟩
    · exact ⟨.reject, by decide⟩
    · exact ⟨.blank, by decide⟩

/-! ## Written lines make their statements -/

theorem isLineText_append
    {front back : List Char} :
    IsLineText (front ++ back) ↔ IsLineText front ∧ IsLineText back :=
  List.forall_mem_append

theorem lineMakes_headerLine
    {made : Header} {value : List Char}
    (written : HeaderValue made value) :
    LineMakes (headerLine made.keyword value) (.header made) := by
  have outside :
      BeginsOutside isGap (headerLine made.keyword value) :=
    beginsOutside_append made.keyword.letters_ne_nil
      made.keyword.letters_isStateName.no_gap.2 _
  have body :
      skipGap (headerLine made.keyword value) =
        made.keyword.letters ++ [] ++ ':' :: ([' '] ++ (value ++ [])) := by
    rw [skipGap, dropWhile_of_beginsOutside outside]
    simp [headerLine]
  exact
    lineMakes_header body (by simp [IsGapText]) (by simp [IsGapText, isGap])
      written (by simp [IsGapText])

theorem stateThenSymbol_of_writable
    {state : String} {symbol : Symbol}
    (isName : IsWritableName state) (isSymbol : IsWritableSymbol symbol) :
    StateThenSymbol state symbol (state.toList ++ [' '] ++ [symbol]) := by
  have written : StateThenSymbol (String.ofList state.toList) symbol _ :=
    .intro (isWritableName_iff.mp isName).1
      (by simp [IsGapText, isGap] : IsGapText [' '])
      (isWritableSymbol_iff.mp isSymbol).1 (Or.inl (by simp))
  rwa [String.ofList_toList] at written

theorem lineMakes_line
    {transition : Transition}
    (writable : transition.Writable) :
    LineMakes transition.line.toList (.transition transition) := by
  have isLeft := stateThenSymbol_of_writable writable.state writable.symbol
  have isRight := stateThenSymbol_of_writable writable.next writable.write
  have gap : IsGapText [' '] := by
    simp [IsGapText, isGap]
  have composed :
      transition.line.toList =
        transition.state.toList ++ [' '] ++ [transition.symbol] ++
          ([' '] ++ '-' :: '>' ::
            ([' '] ++ (transition.next.toList ++ [' '] ++ [transition.write]) ++
              [' '] ++ transition.direction.mark :: [])) := by
    simp [Transition.line]
  have body :
      skipGap transition.line.toList = transition.line.toList := by
    rw [skipGap, dropWhile_of_beginsOutside]
    rw [composed]
    exact isLeft.beginsOutside _
  refine
    lineMakes_transition (body.trans (composed.trans
      (List.append_assoc _ _ _).symm)) isLeft isRight gap gap gap
      (by simp [IsGapText]) ?_ ?_
  · rw [body, composed, isLeft.head?_eq]
    exact writable.noComment
  · rw [body, composed, opening?_eq_none_iff_of_stateThenSymbol isLeft,
      exists_keyword_name_iff]
    exact writable.noHeader

theorem isLineText_line
    {transition : Transition}
    (writable : transition.Writable) :
    IsLineText transition.line.toList := by
  have ofMark : isLineEnd transition.direction.mark = false := by
    cases transition.direction <;> rfl
  have ofFixed :
      isLineEnd ' ' = false ∧ isLineEnd '-' = false ∧ isLineEnd '>' = false :=
    ⟨rfl, rfl, rfl⟩
  simp [Transition.line, isLineText_append, isLineText_cons, isLineText_nil,
    (isWritableName_iff.mp writable.state).2,
    (isWritableName_iff.mp writable.next).2,
    (isWritableSymbol_iff.mp writable.symbol).2,
    (isWritableSymbol_iff.mp writable.write).2, ofMark, ofFixed]

theorem isLineText_headerLine
    {keyword : Keyword} {value : List Char}
    (isLine : IsLineText value) :
    IsLineText (headerLine keyword value) := by
  have ofFixed : isLineEnd ':' = false ∧ isLineEnd ' ' = false :=
    ⟨rfl, rfl⟩
  simp [headerLine, isLineText_append, isLineText_cons,
    keyword.letters_isLineText, isLine, ofFixed]

/-- The statements that the lines of a description make. -/
def statementsOf (description : Description) : List Statement :=
  (headersOf description).map .header ++
    description.transitions.map .transition

theorem headerValue_of_writableName
    {name : String} {make : String → Header}
    (written :
      ∀ {letters : List Char}, IsStateName letters →
        HeaderValue (make (String.ofList letters)) letters)
    (isName : IsWritableName name) :
    HeaderValue (make name) name.toList := by
  have isValue := written (isWritableName_iff.mp isName).1
  rwa [String.ofList_toList] at isValue

theorem forall₂_linesOf
    {description : Description}
    (writable : description.Writable) :
    List.Forall₂ LineMakes (linesOf description) (statementsOf description) := by
  have ofTransitions :
      List.Forall₂ LineMakes
        (description.transitions.map (·.line.toList))
        (description.transitions.map .transition) := by
    rw [List.forall₂_map_left_iff, List.forall₂_map_right_iff,
      List.forall₂_same]
    intro transition member
    exact lineMakes_line (writable.transitions transition member)
  have ofBlank : HeaderValue (.blank description.blank) [description.blank] :=
    .blank (isWritableSymbol_iff.mp writable.blank).1
  exact
    .cons (lineMakes_headerLine
        (headerValue_of_writableName .start writable.start)) <|
      .cons (lineMakes_headerLine
          (headerValue_of_writableName .accept writable.accept)) <|
        .cons (lineMakes_headerLine
            (headerValue_of_writableName .reject writable.reject)) <|
          .cons (lineMakes_headerLine ofBlank) ofTransitions

theorem isLineText_of_mem_linesOf
    {description : Description} {line : List Char}
    (writable : description.Writable)
    (member : line ∈ linesOf description) :
    IsLineText line := by
  simp only [linesOf, List.mem_cons, List.mem_map] at member
  rcases member with rfl | rfl | rfl | rfl | ⟨transition, member, rfl⟩
  · exact isLineText_headerLine (isWritableName_iff.mp writable.start).2
  · exact isLineText_headerLine (isWritableName_iff.mp writable.accept).2
  · exact isLineText_headerLine (isWritableName_iff.mp writable.reject).2
  · apply isLineText_headerLine
    simpa [IsLineText] using (isWritableSymbol_iff.mp writable.blank).2
  · exact isLineText_line (writable.transitions transition member)

theorem filterMap_header?_statementsOf (description : Description) :
    (statementsOf description).filterMap Statement.header? =
      headersOf description := by
  simp [statementsOf, List.filterMap_map, Function.comp_def,
    Statement.header?]

theorem filterMap_transition?_statementsOf (description : Description) :
    (statementsOf description).filterMap Statement.transition? =
      description.transitions := by
  simp [statementsOf, List.filterMap_map, Function.comp_def,
    Statement.transition?]

/-! ## Texts of ended lines -/

/-- Ended lines in front of a text are its first lines. -/
theorem splits_flatMap_append
    {lines others : List (List Char)} {rest : List Char}
    (areLines : ∀ line ∈ lines, IsLineText line)
    (splits : Splits rest others) :
    Splits (lines.flatMap (· ++ ['\n']) ++ rest) (lines ++ others) := by
  induction lines with
  | nil => exact splits
  | cons line lines induction =>
      rw [List.forall_mem_cons] at areLines
      have ended := Splits.feed areLines.1 (induction areLines.2)
      simpa using ended

theorem beginsOutside_append_iff
    {inClass : Char → Bool} {front : List Char}
    (nonempty : front ≠ []) (rest : List Char) :
    BeginsOutside inClass (front ++ rest) ↔ BeginsOutside inClass front := by
  cases front with
  | nil => exact (nonempty rfl).elim
  | cons c front => simp

/--
A text of ended lines makes a description when its lines make the statements of
the description, if trimming takes away the last line end and nothing else.
-/
theorem parse_of_lines
    {text : String} {before : List (List Char)} {last : List Char}
    {statements : List Statement} {description : Description}
    (within : text.utf8ByteSize ≤ sizeLimit)
    (composed : text.toList = (before ++ [last]).flatMap (· ++ ['\n']))
    (areLines : ∀ line ∈ before ++ [last], IsLineText line)
    (begins : BeginsOutside Text.isWhiteSpace text.toList)
    (nonempty : last ≠ [])
    (ends : BeginsOutside Text.isWhiteSpace last.reverse)
    (makes : List.Forall₂ LineMakes (before ++ [last]) statements)
    (headers :
      (statements.filterMap Statement.header?).Perm (headersOf description))
    (transitions :
      statements.filterMap Statement.transition? = description.transitions) :
    Description.parse text = .ok description := by
  rw [List.forall_mem_append] at areLines
  let core := before.flatMap (· ++ ['\n']) ++ last
  have isCore : text.toList = core ++ ['\n'] := by
    simp [composed, core]
  have coreNonempty : core ≠ [] :=
    List.append_ne_nil_of_right_ne_nil _ nonempty
  have trimmed : Text.trim text.toList = core := by
    refine
      trim_eq_iff.mpr
        ⟨[], ['\n'], isCore, List.forall_mem_nil _,
          List.forall_mem_singleton.mpr rfl, ?_, ?_⟩
    · rw [isCore, beginsOutside_append_iff coreNonempty] at begins
      exact begins
    · rw [List.reverse_append,
        beginsOutside_append_iff (mt List.reverse_eq_nil_iff.mp nonempty)]
      exact ends
  have splits : Splits core (before ++ [last]) :=
    splits_flatMap_append areLines.1 (.last (areLines.2 last (by simp)))
  rw [Description.parse, if_neg (Nat.not_lt.mpr within), trimmed,
    parseTrimmed_eq_ok_iff]
  exact ⟨_, statements, splits, makes, headers, transitions⟩

/-! ## Standard forms -/

theorem exists_linesOf_eq_append
    {description : Description}
    (ends :
      description.transitions ≠ [] ∨
        Text.isWhiteSpace description.blank = false) :
    ∃ before last, linesOf description = before ++ [last] ∧ last ≠ [] ∧
      BeginsOutside Text.isWhiteSpace last.reverse := by
  rcases List.eq_nil_or_concat description.transitions with
    none | ⟨others, transition, some⟩
  · have blankShown := ends.resolve_left (not_not_intro none)
    refine
      ⟨[headerLine .start description.start.toList,
          headerLine .accept description.accept.toList,
          headerLine .reject description.reject.toList],
        headerLine .blank [description.blank], ?_, ?_, ?_⟩
    · simp [linesOf, none]
    · simp [headerLine]
    · simpa [headerLine] using blankShown
  · refine
      ⟨headerLine .start description.start.toList ::
          headerLine .accept description.accept.toList ::
          headerLine .reject description.reject.toList ::
          headerLine .blank [description.blank] ::
          others.map (·.line.toList), transition.line.toList, ?_, ?_, ?_⟩
    · simp [linesOf, some]
    · simp [Transition.line]
    · have markShown :
          Text.isWhiteSpace transition.direction.mark = false := by
        cases transition.direction <;> decide
      simpa [Transition.line] using markShown

theorem filterMap_of_comments
    {Part : Type} {part? : Statement → Option Part}
    (noPart : part? .comment = none)
    (comments : List (List Char)) (statements : List Statement) :
    (comments.map (fun _ => Statement.comment) ++ statements).filterMap part? =
      statements.filterMap part? := by
  simp [noPart]

theorem beginsOutside_of_comments_append_linesOf
    (comments : List (List Char)) (description : Description) :
    BeginsOutside Text.isWhiteSpace
      ((comments.map ('#' :: ·) ++ linesOf description).flatMap
        (· ++ ['\n'])) := by
  cases comments with
  | nil =>
      simp only [linesOf, headerLine, Keyword.letters, List.map_nil,
        List.nil_append, List.flatMap_cons, List.cons_append,
        beginsOutside_cons]
      decide
  | cons comment comments =>
      simp only [List.map_cons, List.cons_append, List.flatMap_cons,
        beginsOutside_cons]
      decide

/-- Comments in front of the standard form of a description change nothing. -/
theorem parse_of_comments_append_linesOf
    {text : String} {comments : List (List Char)} {description : Description}
    (within : text.utf8ByteSize ≤ sizeLimit)
    (composed :
      text.toList =
        (comments.map ('#' :: ·) ++ linesOf description).flatMap
          (· ++ ['\n']))
    (areLines : ∀ comment ∈ comments, IsLineText comment)
    (writable : description.Writable)
    (ends :
      description.transitions ≠ [] ∨
        Text.isWhiteSpace description.blank = false) :
    Description.parse text = .ok description := by
  have begins := beginsOutside_of_comments_append_linesOf comments description
  rw [← composed] at begins
  have makesComments :
      List.Forall₂ LineMakes (comments.map ('#' :: ·))
        (comments.map fun _ => .comment) := by
    rw [List.forall₂_map_left_iff, List.forall₂_map_right_iff,
      List.forall₂_same]
    intro comment _
    exact lineMakes_comment (dropWhile_of_beginsOutside (by simp [isGap]))
  have makes :
      List.Forall₂ LineMakes
        (comments.map ('#' :: ·) ++ linesOf description)
        (comments.map (fun _ => .comment) ++ statementsOf description) :=
    List.rel_append makesComments (forall₂_linesOf writable)
  have areLinesAll :
      ∀ line ∈ comments.map ('#' :: ·) ++ linesOf description,
        IsLineText line := by
    rw [List.forall_mem_append, List.forall_mem_map]
    refine ⟨?_, fun line => isLineText_of_mem_linesOf writable⟩
    intro comment member
    exact isLineText_cons.mpr ⟨rfl, areLines comment member⟩
  rcases exists_linesOf_eq_append ends with
    ⟨before, last, isLines, nonempty, lastEnds⟩
  rw [isLines, ← List.append_assoc] at composed makes areLinesAll
  apply
    parse_of_lines within composed areLinesAll begins nonempty lastEnds makes
  · rw [filterMap_of_comments rfl, filterMap_header?_statementsOf]
  · rw [filterMap_of_comments rfl, filterMap_transition?_statementsOf]

/-! ## Descriptions that were read -/

theorem mem_statements_of_mem_statementsOf
    {statements : List Statement} {statement : Statement}
    {description : Description}
    (headers :
      (statements.filterMap Statement.header?).Perm (headersOf description))
    (transitions :
      statements.filterMap Statement.transition? = description.transitions)
    (member : statement ∈ statementsOf description) :
    statement ∈ statements := by
  simp only [statementsOf, List.mem_append, List.mem_map] at member
  rcases member with ⟨header, member, rfl⟩ | ⟨transition, member, rfl⟩
  · rcases List.mem_filterMap.mp (headers.mem_iff.mpr member) with
      ⟨statement, memberStatement, made⟩
    cases statement <;> cases made
    exact memberStatement
  · rw [← transitions] at member
    rcases List.mem_filterMap.mp member with
      ⟨statement, memberStatement, made⟩
    cases statement <;> cases made
    exact memberStatement

/-- What a description says stands in a line of the text it was read from. -/
theorem exists_makes_of_parse
    {text : String} {description : Description} {statement : Statement}
    (parsed : Description.parse text = .ok description)
    (member : statement ∈ statementsOf description) :
    ∃ core, Makes core statement ∧ IsLineText core ∧ core ⊆ text.toList := by
  rw [Description.parse] at parsed
  split at parsed
  · cases parsed
  rcases parseTrimmed_eq_ok_iff.mp parsed with
    ⟨lines, statements, splits, makes, headers, transitions⟩
  rcases exists_mem_of_forall₂ makes
      (mem_statements_of_mem_statementsOf headers transitions member) with
    ⟨line, memberLine, makesLine⟩
  have ofLine : trimGaps line ⊆ line :=
    (trimGaps_eq_iff.mp rfl).subset
  have ofTrimmed : line ⊆ Text.trim text.toList :=
    splits.subset memberLine
  have ofText : Text.trim text.toList ⊆ text.toList :=
    (trim_eq_iff.mp rfl).subset
  refine ⟨trimGaps line, makesLine, ?_, ?_⟩
  · intro c memberCore
    exact splits.isLineText memberLine c (ofLine memberCore)
  · exact fun c memberCore => ofText (ofTrimmed (ofLine memberCore))

theorem isWritableName_of_letters
    {letters : List Char}
    (isName : IsStateName letters) (isLine : IsLineText letters) :
    IsWritableName (String.ofList letters) := by
  rw [isWritableName_iff, String.toList_ofList]
  exact ⟨isName, isLine⟩

theorem StateThenSymbol.writable
    {state : String} {symbol : Symbol} {written : List Char}
    (isWritten : StateThenSymbol state symbol written)
    (isLine : IsLineText written) :
    IsWritableName state ∧ IsWritableSymbol symbol := by
  rcases isWritten with ⟨isName, -, isSymbol, -⟩
  rw [isLineText_append, isLineText_append, isLineText_cons] at isLine
  exact
    ⟨isWritableName_of_letters isName isLine.1.1,
      isWritableSymbol_iff.mpr ⟨isSymbol, isLine.2.1⟩⟩

theorem writable_of_makes_transition
    {core : List Char} {transition : Transition}
    (makes : Makes core (.transition transition))
    (isLine : IsLineText core) :
    transition.Writable := by
  cases makes with
  | transition isLeft isRight _ _ _ noComment noHeader =>
      rw [exists_keyword_name_iff] at noHeader
      simp only [isLineText_append, isLineText_cons] at isLine
      rcases isLeft.writable isLine.1.1 with ⟨state, symbol⟩
      rcases isRight.writable isLine.2.2.2.1.1.2 with ⟨next, write⟩
      exact { state, symbol, next, write, noComment, noHeader }

/-- A header with a writable value. -/
def Header.Writable : Header → Prop
  | .start state | .accept state | .reject state => IsWritableName state
  | .blank symbol => IsWritableSymbol symbol

theorem writable_of_makes_header
    {core : List Char} {header : Header}
    (makes : Makes core (.header header))
    (isLine : IsLineText core) :
    header.Writable := by
  cases makes with
  | header _ _ isValue =>
      simp only [isLineText_append, isLineText_cons] at isLine
      have isLineValue := isLine.2.2.2
      cases isValue with
      | start isName | accept isName | reject isName =>
          exact isWritableName_of_letters isName isLineValue
      | blank isSymbol =>
          exact
            isWritableSymbol_iff.mpr
              ⟨isSymbol, (isLineText_cons.mp isLineValue).1⟩

theorem writable_of_parse
    {text : String} {description : Description}
    (parsed : Description.parse text = .ok description) :
    description.Writable := by
  have ofHeader (header : Header) (member : header ∈ headersOf description) :
      header.Writable := by
    have said : .header header ∈ statementsOf description :=
      List.mem_append_left _ (List.mem_map_of_mem member)
    rcases exists_makes_of_parse parsed said with ⟨core, makes, isLine, -⟩
    exact writable_of_makes_header makes isLine
  have ofTransition (transition : Transition)
      (member : transition ∈ description.transitions) :
      transition.Writable := by
    have said : .transition transition ∈ statementsOf description :=
      List.mem_append_right _ (List.mem_map_of_mem member)
    rcases exists_makes_of_parse parsed said with ⟨core, makes, isLine, -⟩
    exact writable_of_makes_transition makes isLine
  exact
    { start := ofHeader (.start description.start) (by simp [headersOf])
      accept := ofHeader (.accept description.accept) (by simp [headersOf])
      reject := ofHeader (.reject description.reject) (by simp [headersOf])
      blank := ofHeader (.blank description.blank) (by simp [headersOf])
      transitions := ofTransition }

end Format

namespace Description

open Format

theorem parse_format_of_writable
    {description : Description}
    (writable : description.Writable)
    (ends :
      description.transitions ≠ [] ∨
        Text.isWhiteSpace description.blank = false)
    (within : description.format.utf8ByteSize ≤ sizeLimit) :
    parse description.format = .ok description := by
  have composed :
      description.format.toList =
        (([] : List (List Char)).map ('#' :: ·) ++
          linesOf description).flatMap (· ++ ['\n']) :=
    String.toList_ofList
  exact
    parse_of_comments_append_linesOf within composed (by simp) writable ends

/--
A description of writable parts is read again from its standard form, if this is
not too large and its last line does not end in white space.  Every description
that was read is of writable parts, so it can be written and read again under the
same two conditions.
-/
theorem parse_format_eq_self :
    (∀ description : Description, description.Writable →
      (description.transitions ≠ [] ∨
        Text.isWhiteSpace description.blank = false) →
      description.format.utf8ByteSize ≤ 65536 →
        parse description.format = .ok description) ∧
    (∀ (text : String) (description : Description),
      parse text = .ok description → description.Writable) ∧
    (∀ (text : String) (description : Description),
      parse text = .ok description →
      (description.transitions ≠ [] ∨
        Text.isWhiteSpace description.blank = false) →
      description.format.utf8ByteSize ≤ 65536 →
        parse description.format = .ok description) := by
  refine ⟨?_, ?_, ?_⟩
  · intro description writable ends within
    exact parse_format_of_writable writable ends within
  · intro text description parsed
    exact writable_of_parse parsed
  · intro text description parsed ends within
    exact parse_format_of_writable (writable_of_parse parsed) ends within

/-- Names and symbols that look like marks, keywords, headers and comments. -/
def lookalikes : Description where
  start := "start"
  accept := "#"
  reject := "->"
  blank := ':'
  transitions :=
    [⟨"start", '#', "#", ':', .left⟩, ⟨"->", '>', "blank", '-', .stay⟩,
      ⟨"<", ':', "->", '^', .right⟩]

theorem parse_format_eq_self_lookalikes :
    lookalikes.Writable ∧ parse lookalikes.format = .ok lookalikes := by
  have writable : lookalikes.Writable := by decide +kernel
  exact
    ⟨writable,
      parse_format_eq_self.1 lookalikes writable (Or.inl (by decide))
        (by decide +kernel)⟩

end Description

end TapeMachine
