import TapeMachine.Proofs.Format.Padding
import TapeMachine.Proofs.Format.RoundTrip

/-!
# Lines joined to a text

A text can be made of lines by putting a line feed between any two of them.
Leaving out the white space around such a text leaves out the lines of white
space at its two ends, and what white space there is at the outer ends of the
first and of the last line between them.

The lines are read with fewer characters as white space than are left out
around the text.  So a line can lose more at the end of a text than it could
spare: a state name that begins with white space, when its transition stands
first, and the value of a header that ends with it, when the header stands last.
Nothing else can be lost, and this module shows that otherwise the lines left
over say the same.
-/

namespace TapeMachine.Format

/-! ## Joining -/

/-- The lines with a line feed between any two. -/
def joined (lines : List (List Char)) : List Char :=
  ['\n'].intercalate lines

@[simp]
theorem joined_nil : joined [] = [] :=
  List.intercalate_nil

@[simp]
theorem joined_singleton (line : List Char) : joined [line] = line :=
  List.intercalate_singleton

@[simp]
theorem joined_cons_cons (line next : List Char) (more : List (List Char)) :
    joined (line :: next :: more) = line ++ '\n' :: joined (next :: more) := by
  simp [joined, List.intercalate_cons_cons]

theorem joined_concat
    {lines : List (List Char)} (nonempty : lines ≠ []) (last : List Char) :
    joined (lines ++ [last]) = joined lines ++ '\n' :: last := by
  induction lines with
  | nil => exact (nonempty rfl).elim
  | cons line more induction =>
      cases more with
      | nil => simp
      | cons next more =>
          have joinedRest := induction (List.cons_ne_nil next more)
          simp only [List.cons_append, joined_cons_cons] at joinedRest ⊢
          rw [joinedRest, List.append_assoc, List.cons_append]

theorem reverse_joined (lines : List (List Char)) :
    (joined lines).reverse = joined (lines.reverse.map List.reverse) := by
  induction lines with
  | nil => rfl
  | cons line more induction =>
      cases more with
      | nil => simp
      | cons next more =>
          have nonempty :
              (next :: more).reverse.map List.reverse ≠ [] := by
            simp
          rw [joined_cons_cons, List.reverse_append, List.reverse_cons,
            induction, List.reverse_cons (a := line), List.map_append,
            List.map_cons, List.map_nil, joined_concat nonempty]
          simp

theorem splits_joined
    {lines : List (List Char)}
    (nonempty : lines ≠ [])
    (areLines : ∀ line ∈ lines, IsLineText line) :
    Splits (joined lines) lines := by
  induction lines with
  | nil => exact (nonempty rfl).elim
  | cons line more induction =>
      rw [List.forall_mem_cons] at areLines
      cases more with
      | nil =>
          rw [joined_singleton]
          exact .last areLines.1
      | cons next more =>
          rw [joined_cons_cons]
          exact
            .feed areLines.1 (induction (List.cons_ne_nil _ _) areLines.2)

/-! ## Trimming joined lines -/

/-- Leaves out the lines of white space in front, and then the white space in front. -/
def trimFirstLine : List (List Char) → List (List Char)
  | [] => []
  | line :: more =>
    if Text.trimStart line = [] then trimFirstLine more
    else Text.trimStart line :: more

/-- The same at the other end. -/
def trimLastLine (lines : List (List Char)) : List (List Char) :=
  (trimFirstLine (lines.reverse.map List.reverse)).reverse.map List.reverse

theorem trimStart_joined (lines : List (List Char)) :
    Text.trimStart (joined lines) = joined (trimFirstLine lines) := by
  induction lines with
  | nil => rfl
  | cons line more induction =>
      rw [trimFirstLine]
      cases more with
      | nil =>
          split
          · next white => rwa [joined_singleton]
          · rw [joined_singleton, joined_singleton]
      | cons next more =>
          rw [joined_cons_cons, Text.trimStart, List.dropWhile_append]
          split
          · next white =>
              have isWhite : Text.trimStart line = [] :=
                List.isEmpty_iff.mp white
              rw [if_pos isWhite, ← induction]
              exact List.dropWhile_cons_of_pos (by decide)
          · next inked =>
              have notWhite : Text.trimStart line ≠ [] :=
                mt List.isEmpty_iff.mpr inked
              rw [if_neg notWhite, joined_cons_cons]
              rfl

theorem trimEnd_joined (lines : List (List Char)) :
    Text.trimEnd (joined lines) = joined (trimLastLine lines) := by
  rw [Text.trimEnd, reverse_joined, trimStart_joined, reverse_joined]
  rfl

/-! ## What the lines say that are left -/

/-- A single line that makes the statement. -/
def Conveys (line : List Char) (statement : Statement) : Prop :=
  IsLineText line ∧ LineMakes line statement

theorem isWhiteSpace_of_isGap
    {c : Char} (gap : isGap c = true) :
    Text.isWhiteSpace c = true := by
  simp only [isGap, Bool.or_eq_true, beq_iff_eq] at gap
  rcases gap with rfl | rfl <;> decide

/-- The value of a header as it is written. -/
def Header.value : Header → List Char
  | .start state | .accept state | .reject state => state.toList
  | .blank symbol => [symbol]

theorem HeaderValue.eq_value
    {made : Header} {value : List Char}
    (isValue : HeaderValue made value) :
    value = made.value := by
  cases isValue <;> simp [Header.value]

section Core

variable
    {core : List Char}
    {statement : Statement}

/-- Only the state name of a transition can begin a line with white space. -/
theorem Makes.beginsOutside_isWhiteSpace
    (makes : Makes core statement)
    (notEmpty : statement ≠ .empty)
    (begins :
      ∀ made, statement = .transition made →
        BeginsOutside Text.isWhiteSpace made.state.toList) :
    core ≠ [] ∧ BeginsOutside Text.isWhiteSpace core := by
  cases makes with
  | empty => exact (notEmpty rfl).elim
  | comment => exact ⟨by simp, by simp; decide⟩
  | @header made value before after gapBefore gapAfter written =>
      cases made.keyword <;> simp [Keyword.letters] <;> decide
  | @transition made left right first second third reads writes =>
      rw [List.append_assoc]
      refine ⟨List.append_ne_nil_of_left_ne_nil reads.ne_nil _, ?_⟩
      intro c isHead
      rw [reads.head?_eq] at isHead
      exact begins made rfl c isHead

/-- Only the value of a header can end a line with white space, or a comment. -/
theorem Makes.endsOutside_isWhiteSpace
    (makes : Makes core statement)
    (notEmpty : statement ≠ .empty)
    (noComment : statement ≠ .comment)
    (ends :
      ∀ made, statement = .header made →
        BeginsOutside Text.isWhiteSpace made.value.reverse) :
    core ≠ [] ∧ BeginsOutside Text.isWhiteSpace core.reverse := by
  cases makes with
  | empty => exact (notEmpty rfl).elim
  | comment => exact (noComment rfl).elim
  | @header made value before after gapBefore gapAfter written =>
      refine ⟨by simp, ?_⟩
      have nonempty : value.reverse ≠ [] :=
        mt List.reverse_eq_nil_iff.mp written.no_gap.1
      have endsValue := ends made rfl
      rw [← written.eq_value] at endsValue
      simp only [List.reverse_append, List.reverse_cons, List.append_assoc]
      rwa [beginsOutside_append_iff nonempty]
  | @transition made left right first second third =>
      refine ⟨by simp, ?_⟩
      have marked : Text.isWhiteSpace made.direction.mark = false := by
        cases made.direction <;> decide
      simpa using marked

end Core

section Line

variable
    {line : List Char}
    {statement : Statement}

theorem Conveys.exists_core
    (conveys : Conveys line statement) :
    ∃ before core after,
      line = before ++ core ++ after ∧ IsGapText before ∧ IsGapText after ∧
        BeginsOutside isGap core ∧ BeginsOutside isGap core.reverse ∧
          Makes core statement := by
  rcases lineMakes_iff_trims.mp conveys.2 with
    ⟨core, ⟨before, after, composed, gapBefore, gapAfter, begins, ends⟩, makes⟩
  exact
    ⟨before, core, after, composed, gapBefore, gapAfter, begins, ends, makes⟩

theorem Conveys.of_trims
    {core : List Char}
    (isLine : IsLineText line)
    (trims : Trims isGap line core)
    (makes : Makes core statement) :
    Conveys line statement :=
  ⟨isLine, lineMakes_iff_trims.mpr ⟨core, trims, makes⟩⟩

theorem Conveys.trimStart_eq_nil_iff
    (conveys : Conveys line statement) :
    Text.trimStart line = [] ↔ statement = .empty := by
  rcases conveys.exists_core with
    ⟨before, core, after, composed, gapBefore, gapAfter, -, -, makes⟩
  rw [Text.trimStart, List.dropWhile_eq_nil_iff]
  constructor
  · intro allWhite
    have inkless (c : Char) (member : c ∈ core) :
        Text.isWhiteSpace c = true :=
      allWhite c (by simp [composed, member])
    cases makes with
    | empty => rfl
    | comment =>
        exact absurd (inkless '#' (by simp)) (by decide)
    | header =>
        exact absurd (inkless ':' (by simp)) (by decide)
    | transition =>
        exact absurd (inkless '-' (by simp)) (by decide)
  · rintro rfl c member
    cases makes
    rw [composed, List.append_nil, List.mem_append] at member
    rcases member with member | member
    · exact isWhiteSpace_of_isGap (gapBefore c member)
    · exact isWhiteSpace_of_isGap (gapAfter c member)

theorem Conveys.trimStart
    (conveys : Conveys line statement)
    (notEmpty : statement ≠ .empty)
    (begins :
      ∀ made, statement = .transition made →
        BeginsOutside Text.isWhiteSpace made.state.toList) :
    Conveys (Text.trimStart line) statement := by
  rcases conveys.exists_core with
    ⟨before, core, after, composed, gapBefore, gapAfter, outside, outsideEnd,
      makes⟩
  rcases makes.beginsOutside_isWhiteSpace notEmpty begins with
    ⟨nonempty, inked⟩
  have trimmed : Text.trimStart line = core ++ after := by
    rw [composed, List.append_assoc, Text.trimStart,
      List.dropWhile_append_of_pos
        (fun c member => isWhiteSpace_of_isGap (gapBefore c member)),
      dropWhile_of_beginsOutside]
    rwa [beginsOutside_append_iff nonempty]
  have isLine := conveys.1
  rw [composed, isLineText_append, isLineText_append] at isLine
  rw [trimmed]
  exact
    .of_trims (isLineText_append.mpr ⟨isLine.1.2, isLine.2⟩)
      ⟨[], after, rfl, List.forall_mem_nil _, gapAfter, outside, outsideEnd⟩
      makes

/-- Behind a character that is shown, white space is left out at the end. -/
theorem trimEnd_append_cons
    {c : Char}
    (inked : Text.isWhiteSpace c = false) (front back : List Char) :
    Text.trimEnd (front ++ c :: back) = front ++ c :: Text.trimEnd back := by
  have stops :
      (c :: front.reverse).dropWhile Text.isWhiteSpace = c :: front.reverse :=
    dropWhile_of_beginsOutside (beginsOutside_cons.mpr inked)
  rw [List.append_cons, Text.trimEnd, List.reverse_append,
    List.reverse_concat, Text.trimStart, List.dropWhile_append, stops]
  split
  · next white =>
      simp [Text.trimEnd, Text.trimStart, List.isEmpty_iff.mp white]
  · simp [Text.trimEnd, Text.trimStart]

/-- A gap at the end is left out, and nothing that is shown. -/
theorem trimEnd_append_of_isGapText
    {front gap : List Char}
    (inked : BeginsOutside Text.isWhiteSpace front.reverse)
    (isGap : IsGapText gap) :
    Text.trimEnd (front ++ gap) = front := by
  have allWhite : ∀ c ∈ gap.reverse, Text.isWhiteSpace c = true := by
    intro c member
    exact isWhiteSpace_of_isGap (isGap c (List.mem_reverse.mp member))
  rw [Text.trimEnd, Text.trimStart, List.reverse_append,
    List.dropWhile_append_of_pos allWhite, dropWhile_of_beginsOutside inked,
    List.reverse_reverse]

theorem IsLineText.trimEnd
    (isLine : IsLineText line) :
    IsLineText (Text.trimEnd line) :=
  fun c member => isLine c ((trimEnd_isPrefix line).subset member)

/-- A comment may get shorter, but its mark stays. -/
theorem Conveys.trimEnd_comment
    (conveys : Conveys line .comment) :
    Conveys (Text.trimEnd line) .comment := by
  rcases conveys.exists_core with
    ⟨before, core, after, composed, gapBefore, -, -, -, makes⟩
  cases makes with
  | @comment text =>
      have trimmed :
          Text.trimEnd line =
            before ++ '#' :: Text.trimEnd (text ++ after) := by
        rw [composed, List.append_assoc, List.cons_append,
          trimEnd_append_cons (by decide)]
      have body :
          skipGap (Text.trimEnd line) =
            '#' :: Text.trimEnd (text ++ after) := by
        rw [trimmed]
        exact skipGap_append gapBefore (beginsOutside_cons.mpr (by decide))
      exact ⟨conveys.1.trimEnd, lineMakes_comment body⟩

theorem Conveys.trimEnd
    (conveys : Conveys line statement)
    (notEmpty : statement ≠ .empty)
    (ends :
      ∀ made, statement = .header made →
        BeginsOutside Text.isWhiteSpace made.value.reverse) :
    Conveys (Text.trimEnd line) statement := by
  by_cases commented : statement = .comment
  · subst commented
    exact conveys.trimEnd_comment
  · have isLine := conveys.1.trimEnd
    rcases conveys.exists_core with
      ⟨before, core, after, composed, gapBefore, gapAfter, outside, outsideEnd,
        makes⟩
    rcases makes.endsOutside_isWhiteSpace notEmpty commented ends with
      ⟨nonempty, inked⟩
    have inkedLine :
        BeginsOutside Text.isWhiteSpace (before ++ core).reverse := by
      rw [List.reverse_append,
        beginsOutside_append_iff (mt List.reverse_eq_nil_iff.mp nonempty)]
      exact inked
    rw [composed, trimEnd_append_of_isGapText inkedLine gapAfter] at isLine ⊢
    exact
      .of_trims isLine
        ⟨before, [], by simp, gapBefore, List.forall_mem_nil _, outside,
          outsideEnd⟩
        makes

end Line

/-! ## What the text says that is left -/

/--
Of the statements that are not empty, the first is no transition whose state
name begins with white space, and the last no header whose value ends with it.
-/
structure KeepsEdges (statements : List Statement) : Prop where
  begins :
    ∀ made, statements.find? (· ≠ .empty) = some (.transition made) →
      BeginsOutside Text.isWhiteSpace made.state.toList
  ends :
    ∀ made, statements.reverse.find? (· ≠ .empty) = some (.header made) →
      BeginsOutside Text.isWhiteSpace made.value.reverse

/-- Lines that are left out say nothing, and the first of the others loses nothing it needs. -/
theorem exists_forall₂_trimFirstLine
    {Relates : List Char → Statement → Prop}
    {lines : List (List Char)} {statements : List Statement}
    (related : List.Forall₂ Relates lines statements)
    (white :
      ∀ line statement, Relates line statement →
        (Text.trimStart line = [] ↔ statement = .empty))
    (keeps :
      ∀ line statement, Relates line statement →
        statements.find? (· ≠ .empty) = some statement →
          Relates (Text.trimStart line) statement) :
    ∃ count kept,
      statements = List.replicate count .empty ++ kept ∧
        List.Forall₂ Relates (trimFirstLine lines) kept := by
  induction related with
  | nil => exact ⟨0, [], rfl, .nil⟩
  | @cons line statement lines statements first others induction =>
      rw [trimFirstLine]
      by_cases isEmpty : statement = .empty
      · subst isEmpty
        rw [if_pos ((white line _ first).mpr rfl)]
        rcases induction (by simpa using keeps) with
          ⟨count, kept, composed, relatedKept⟩
        exact ⟨count + 1, kept, by rw [composed]; rfl, relatedKept⟩
      · rw [if_neg (mt (white line _ first).mp isEmpty)]
        exact
          ⟨0, statement :: statements, rfl,
            .cons (keeps line _ first (by simp [isEmpty])) others⟩

theorem exists_forall₂_trim
    {lines : List (List Char)} {statements : List Statement}
    (conveyed : List.Forall₂ Conveys lines statements)
    (edges : KeepsEdges statements) :
    ∃ trimmed kept before after,
      Text.trim (joined lines) = joined trimmed ∧
        List.Forall₂ Conveys trimmed kept ∧
          statements =
            List.replicate before .empty ++ kept ++
              List.replicate after .empty := by
  have notEmpty {some' : Statement} {others : List Statement}
      (found : others.find? (· ≠ .empty) = some some') :
      some' ≠ .empty := by
    simpa using List.find?_some found
  rcases exists_forall₂_trimFirstLine conveyed
      (fun _ _ conveys => conveys.trimStart_eq_nil_iff)
      (fun line statement conveys found =>
        conveys.trimStart (notEmpty found)
          (fun made same => edges.begins made (same ▸ found))) with
    ⟨before, rest, composed, conveyedRest⟩
  have endsRest (statement : Statement)
      (found : rest.reverse.find? (· ≠ .empty) = some statement) :
      statements.reverse.find? (· ≠ .empty) = some statement := by
    rw [composed, List.reverse_append, List.find?_append, found,
      Option.some_or]
  -- The end is trimmed as the beginning is, of the lines read backwards.
  have backwards :
      List.Forall₂ (fun line statement => Conveys line.reverse statement)
        ((trimFirstLine lines).reverse.map List.reverse) rest.reverse := by
    rw [List.forall₂_map_left_iff, List.forall₂_reverse_iff]
    simpa only [List.reverse_reverse] using conveyedRest
  have white (line : List Char) (statement : Statement)
      (conveys : Conveys line.reverse statement) :
      Text.trimStart line = [] ↔ statement = .empty := by
    rw [← conveys.trimStart_eq_nil_iff, Text.trimStart, Text.trimStart,
      List.dropWhile_eq_nil_iff, List.dropWhile_eq_nil_iff]
    simp only [List.mem_reverse]
  have keeps (line : List Char) (statement : Statement)
      (conveys : Conveys line.reverse statement)
      (found : rest.reverse.find? (· ≠ .empty) = some statement) :
      Conveys (Text.trimStart line).reverse statement := by
    have trimmed :=
      conveys.trimEnd (notEmpty found)
        (fun made same => edges.ends made (same ▸ endsRest statement found))
    rwa [Text.trimEnd, List.reverse_reverse] at trimmed
  rcases exists_forall₂_trimFirstLine backwards white keeps with
    ⟨after, kept, composedRest, conveyedKept⟩
  refine
    ⟨trimLastLine (trimFirstLine lines), kept.reverse, before, after, ?_, ?_,
      ?_⟩
  · rw [Text.trim, trimStart_joined, trimEnd_joined]
  · rwa [trimLastLine, List.forall₂_map_left_iff, List.forall₂_reverse_iff]
  · rw [composed, List.append_assoc, List.reverse_eq_iff.mp composedRest,
      List.reverse_append, List.reverse_replicate]

/-- Lines joined to a text make the description whose statements they make. -/
theorem parse_of_conveyed
    {text : String} {lines : List (List Char)} {statements : List Statement}
    {description : Description}
    (within : text.utf8ByteSize ≤ sizeLimit)
    (composed : text.toList = joined lines)
    (conveyed : List.Forall₂ Conveys lines statements)
    (edges : KeepsEdges statements)
    (headers :
      (statements.filterMap Statement.header?).Perm (headersOf description))
    (transitions :
      statements.filterMap Statement.transition? = description.transitions) :
    Description.parse text = .ok description := by
  rcases exists_forall₂_trim conveyed edges with
    ⟨trimmed, kept, before, after, isTrim, conveyedKept, rfl⟩
  simp only [List.filterMap_append, List.filterMap_replicate,
    Statement.header?, Statement.transition?, List.nil_append,
    List.append_nil] at headers transitions
  have nonempty : trimmed ≠ [] := by
    rintro rfl
    cases conveyedKept
    exact absurd headers.length_eq (by simp [headersOf])
  rcases (List.forall₂_and_left _ _).mp conveyedKept with
    ⟨areLines, makes⟩
  rw [Description.parse_of_within within, composed, isTrim,
    parseTrimmed_eq_ok_iff]
  exact
    ⟨trimmed, kept, splits_joined nonempty areLines, makes, headers,
      transitions⟩

end TapeMachine.Format
