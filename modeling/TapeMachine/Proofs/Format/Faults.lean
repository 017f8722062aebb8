import Mathlib.Data.String.Basic
import TapeMachine.Proofs.Format.Acceptance
import TapeMachine.Proofs.Format.Padding
import TapeMachine.Proofs.Format.Placement

/-!
# The faults of a description text

A text can be at fault in four ways, in any combination: it is too large, a line
of it makes no statement, a header is given again, a header is missing.  One
fault is reported, by this order and not by the order of the lines: a header that
is repeated in the second line counts for less than a line without sense at the
end.

The reader goes through the lines once for each kind of fault.  For each of the
three searches there is an equivalence here between what is found and how the
lines are composed.
-/

namespace TapeMachine.Format

/-! ## Malformed lines -/

/-- A line that makes no statement. -/
def IsMalformed (line : List Char) : Prop :=
  ∀ statement, ¬ LineMakes line statement

theorem isMalformed_iff_read
    {line : List Char} :
    IsMalformed line ↔ ∃ obstacle, Statement.read line = .error obstacle := by
  simp only [IsMalformed, ← read_eq_ok_iff]
  cases Statement.read line <;> simp

theorem not_isMalformed_iff
    {line : List Char} :
    ¬ IsMalformed line ↔ ∃ statement, LineMakes line statement := by
  simp [IsMalformed]

instance : DecidablePred IsMalformed :=
  fun line =>
    decidable_of_iff ((Statement.read line).toOption = none) (by
      rw [isMalformed_iff_read]
      cases Statement.read line <;> simp [Except.toOption])

/-- The lines of a text with the statements they make. -/
structure Reads (lines : List Line) (readings : List (Line × Statement)) :
    Prop where
  lines_eq : readings.map Prod.fst = lines
  makes : ∀ reading ∈ readings, LineMakes reading.1.text reading.2

theorem reads_cons_iff
    {line : Line} {lines : List Line}
    {readings : List (Line × Statement)} :
    Reads (line :: lines) readings ↔
      ∃ statement others, readings = (line, statement) :: others ∧
        LineMakes line.text statement ∧ Reads lines others := by
  constructor
  · rintro ⟨isLines, makes⟩
    rcases List.map_eq_cons_iff.mp isLines with
      ⟨⟨_, statement⟩, others, rfl, rfl, rfl⟩
    rw [List.forall_mem_cons] at makes
    exact ⟨statement, others, rfl, makes.1, rfl, makes.2⟩
  · rintro ⟨statement, others, rfl, makesLine, rfl, makes⟩
    exact ⟨rfl, List.forall_mem_cons.mpr ⟨makesLine, makes⟩⟩

theorem readLines_cons_of_error
    {line : Line} {obstacle : Obstacle}
    (read : Statement.read line.text = .error obstacle)
    (lines : List Line) :
    readLines (line :: lines) = .error (line, obstacle) := by
  rw [readLines, read]

theorem readLines_cons_of_ok
    {line : Line} {statement : Statement}
    (read : Statement.read line.text = .ok statement)
    (lines : List Line) :
    readLines (line :: lines) =
      (readLines lines).map ((line, statement) :: ·) := by
  rw [readLines, read]

theorem readLines_eq_ok_iff
    {lines : List Line} {readings : List (Line × Statement)} :
    readLines lines = .ok readings ↔ Reads lines readings := by
  induction lines generalizing readings with
  | nil =>
      constructor
      · intro read
        cases read
        exact ⟨rfl, by simp⟩
      · rintro ⟨noLines, -⟩
        rw [List.map_eq_nil_iff.mp noLines]
        rfl
  | cons line lines induction =>
      rw [reads_cons_iff]
      cases read : Statement.read line.text with
      | error obstacle =>
          rw [readLines_cons_of_error read]
          constructor
          · intro isOk
            cases isOk
          · rintro ⟨statement, -, -, makes, -⟩
            exact
              (isMalformed_iff_read.mpr ⟨obstacle, read⟩ statement makes).elim
      | ok statement =>
          rw [readLines_cons_of_ok read, map_eq_ok_iff]
          simp only [induction, ← read_eq_ok_iff, read, Except.ok.injEq]
          constructor
          · rintro ⟨others, reads, rfl⟩
            exact ⟨statement, others, rfl, rfl, reads⟩
          · rintro ⟨_, others, rfl, rfl, reads⟩
            exact ⟨others, reads, rfl⟩

/-- Reading stops at the first malformed line. -/
theorem readLines_eq_error_iff
    {lines : List Line} {line : Line} {obstacle : Obstacle} :
    readLines lines = .error (line, obstacle) ↔
      ∃ before after, lines = before ++ line :: after ∧
        (∀ earlier ∈ before, ¬ IsMalformed earlier.text) ∧
          Statement.read line.text = .error obstacle := by
  induction lines with
  | nil => simp [readLines]
  | cons first lines induction =>
      cases read : Statement.read first.text with
      | error obstacle' =>
          have malformed := isMalformed_iff_read.mpr ⟨obstacle', read⟩
          rw [readLines_cons_of_error read]
          constructor
          · intro isError
            cases isError
            exact ⟨[], lines, rfl, by simp, read⟩
          · rintro ⟨before, after, composed, wellFormed, readLine⟩
            cases before with
            | nil =>
                cases composed
                rw [read] at readLine
                cases readLine
                rfl
            | cons other before =>
                cases composed
                exact (wellFormed _ List.mem_cons_self malformed).elim
      | ok statement =>
          have wellFormedFirst : ¬ IsMalformed first.text :=
            not_isMalformed_iff.mpr ⟨statement, read_eq_ok_iff.mp read⟩
          have sameError :
              (readLines lines).map ((first, statement) :: ·) =
                  .error (line, obstacle) ↔
                readLines lines = .error (line, obstacle) := by
            cases readLines lines <;> simp [Except.map]
          rw [readLines_cons_of_ok read, sameError, induction]
          constructor
          · rintro ⟨before, after, rfl, wellFormed, readLine⟩
            exact
              ⟨first :: before, after, rfl,
                List.forall_mem_cons.mpr ⟨wellFormedFirst, wellFormed⟩, readLine⟩
          · rintro ⟨before, after, composed, wellFormed, readLine⟩
            cases before with
            | nil =>
                cases composed
                rw [read] at readLine
                cases readLine
            | cons other before =>
                cases composed
                exact
                  ⟨before, after, rfl, (List.forall_mem_cons.mp wellFormed).2,
                    readLine⟩

/-! ## Repeated headers -/

/-- The keywords of the headers among some statements. -/
def keywordsOf (statements : List Statement) : List Keyword :=
  (statements.filterMap Statement.header?).map Header.keyword

theorem keywordsOf_cons_of_none
    {statement : Statement} (noHeader : statement.header? = none)
    (statements : List Statement) :
    keywordsOf (statement :: statements) = keywordsOf statements := by
  simp [keywordsOf, noHeader]

theorem keywordsOf_cons_header
    (made : Header) (statements : List Statement) :
    keywordsOf (.header made :: statements) =
      made.keyword :: keywordsOf statements := by
  simp [keywordsOf, Statement.header?]

theorem Statement.header?_cases (statement : Statement) :
    statement.header? = none ∨ ∃ made, statement = .header made := by
  cases statement <;> simp [header?]

theorem repeatedHeader?_cons_of_none
    {statement : Statement} (noHeader : statement.header? = none)
    (seen : List Keyword) (line : Line)
    (readings : List (Line × Statement)) :
    repeatedHeader? seen ((line, statement) :: readings) =
      repeatedHeader? seen readings := by
  simp [repeatedHeader?, noHeader]

theorem repeatedHeader?_cons_header
    (seen : List Keyword) (line : Line) (made : Header)
    (readings : List (Line × Statement)) :
    repeatedHeader? seen ((line, .header made) :: readings) =
      if made.keyword ∈ seen then some (line, made.keyword)
      else repeatedHeader? (made.keyword :: seen) readings := by
  simp [repeatedHeader?, Statement.header?]

/-- Behind readings that repeat no header, their keywords are among those seen. -/
theorem repeatedHeader?_append
    {seen : List Keyword} {before : List (Line × Statement)}
    (unrepeated : repeatedHeader? seen before = none)
    (after : List (Line × Statement)) :
    repeatedHeader? seen (before ++ after) =
      repeatedHeader? ((keywordsOf (before.map Prod.snd)).reverse ++ seen)
        after := by
  induction before generalizing seen with
  | nil => rfl
  | cons reading before induction =>
      rcases reading with ⟨line, statement⟩
      rcases statement.header?_cases with noHeader | ⟨made, rfl⟩
      · rw [repeatedHeader?_cons_of_none noHeader] at unrepeated
        rw [List.cons_append, repeatedHeader?_cons_of_none noHeader,
          induction unrepeated, List.map_cons, keywordsOf_cons_of_none noHeader]
      · rw [repeatedHeader?_cons_header] at unrepeated
        split at unrepeated
        · cases unrepeated
        · next fresh =>
            rw [List.cons_append, repeatedHeader?_cons_header, if_neg fresh,
              induction unrepeated, List.map_cons, keywordsOf_cons_header,
              List.reverse_cons, List.append_assoc, List.singleton_append]

theorem exists_header_of_repeatedHeader?_eq_some
    {seen : List Keyword} {readings : List (Line × Statement)}
    {line : Line} {keyword : Keyword}
    (found : repeatedHeader? seen readings = some (line, keyword)) :
    ∃ before made after,
      readings = before ++ (line, .header made) :: after ∧
        repeatedHeader? seen before = none ∧ made.keyword = keyword ∧
          (keyword ∈ seen ∨ keyword ∈ keywordsOf (before.map Prod.snd)) := by
  induction readings generalizing seen with
  | nil => cases found
  | cons reading readings induction =>
      rcases reading with ⟨first, statement⟩
      rcases statement.header?_cases with noHeader | ⟨made', rfl⟩
      · rw [repeatedHeader?_cons_of_none noHeader] at found
        rcases induction found with
          ⟨before, made, after, rfl, unrepeated, isKeyword, again⟩
        refine
          ⟨(first, statement) :: before, made, after, rfl, ?_, isKeyword, ?_⟩
        · rwa [repeatedHeader?_cons_of_none noHeader]
        · rwa [List.map_cons, keywordsOf_cons_of_none noHeader]
      · rw [repeatedHeader?_cons_header] at found
        split at found
        · next taken =>
            cases found
            exact ⟨[], made', readings, rfl, rfl, rfl, Or.inl taken⟩
        · next fresh =>
            rcases induction found with
              ⟨before, made, after, rfl, unrepeated, isKeyword, again⟩
            refine
              ⟨(first, .header made') :: before, made, after, rfl, ?_,
                isKeyword, ?_⟩
            · rwa [repeatedHeader?_cons_header, if_neg fresh]
            · rw [List.map_cons, keywordsOf_cons_header]
              simpa [or_assoc, or_left_comm] using again

/-- The first header whose keyword was there before is found. -/
theorem repeatedHeader?_eq_some_iff
    {seen : List Keyword} {readings : List (Line × Statement)}
    {line : Line} {keyword : Keyword} :
    repeatedHeader? seen readings = some (line, keyword) ↔
      ∃ before made after,
        readings = before ++ (line, .header made) :: after ∧
          repeatedHeader? seen before = none ∧ made.keyword = keyword ∧
            (keyword ∈ seen ∨ keyword ∈ keywordsOf (before.map Prod.snd)) := by
  constructor
  · exact exists_header_of_repeatedHeader?_eq_some
  · rintro ⟨before, made, after, rfl, unrepeated, rfl, again⟩
    rw [repeatedHeader?_append unrepeated, repeatedHeader?_cons_header,
      if_pos (by simpa using again.symm)]

/-! ## Missing headers -/

theorem isSome_start?_iff (made : Header) :
    made.start?.isSome ↔ made.keyword = .start := by
  cases made <;> simp [Header.start?, Header.keyword]

theorem isSome_accept?_iff (made : Header) :
    made.accept?.isSome ↔ made.keyword = .accept := by
  cases made <;> simp [Header.accept?, Header.keyword]

theorem isSome_reject?_iff (made : Header) :
    made.reject?.isSome ↔ made.keyword = .reject := by
  cases made <;> simp [Header.reject?, Header.keyword]

theorem isSome_blank?_iff (made : Header) :
    made.blank?.isSome ↔ made.keyword = .blank := by
  cases made <;> simp [Header.blank?, Header.keyword]

/-- A report on a line that makes no statement. -/
def Report.IsSyntax (report : Report) : Prop :=
  report.endColumn? = none ∧ ∃ parts, report.complaint = .expected parts

/--
A report on a header that is given again, which spans the header in its line from
the keyword to the end of the value.
-/
def Report.IsRepeated
    (report : Report) (source : List Char) (line : Line) (made : Header) :
    Prop :=
  report.complaint = .repeated made.keyword ∧
    ∃ before core after, line.text = before ++ core ++ after ∧
      IsGapText before ∧ IsGapText after ∧ Makes core (.header made) ∧
        report.place = .ofOffset source (line.offset + before.length) ∧
          ∃ endColumn, report.endColumn? = some endColumn ∧
            Place.ofOffset source
                (line.offset + before.length + core.length) =
              { report.place with column := endColumn }

theorem isSyntax_ofObstacle
    (source : List Char) (line : Line) (obstacle : Obstacle) :
    (Report.ofObstacle source line obstacle).IsSyntax :=
  ⟨rfl, _, rfl⟩

theorem isRepeated_ofRepeated
    {source : List Char} {line : Line} {made : Header}
    (member : line ∈ Line.cut 0 source)
    (makes : LineMakes line.text (.header made)) :
    (Report.ofRepeated source line made.keyword).IsRepeated source line made := by
  rcases trimGaps_eq_iff_skipGap.mp (rfl : trimGaps line.text = _) with
    ⟨after, isBody, gapAfter, -⟩
  have composed :
      line.text =
        line.text.takeWhile isGap ++ trimGaps line.text ++ after := by
    rw [List.append_assoc, ← isBody]
    exact List.takeWhile_append_dropWhile.symm
  have lengths := congrArg List.length composed
  simp only [List.length_append] at lengths
  refine
    ⟨rfl, _, _, after, composed, fun c => List.mem_takeWhile_imp, gapAfter,
      makes, rfl, _, rfl, ?_⟩
  simp only [Report.ofRepeated]
  rw [Nat.add_assoc, Line.ofOffset_add member (by omega),
    Line.ofOffset_add member (by omega), Nat.add_assoc]

/-! ## The fault that is reported -/

/-- The first header whose keyword occurs in a line above it. -/
def RepeatsFirst
    (readings : List (Line × Statement)) (line : Line) (made : Header) : Prop :=
  ∃ before after, readings = before ++ (line, .header made) :: after ∧
    (keywordsOf (before.map Prod.snd)).Nodup ∧
      made.keyword ∈ keywordsOf (before.map Prod.snd)

theorem repeatedHeader?_nil_eq_none_iff
    {readings : List (Line × Statement)} :
    repeatedHeader? [] readings = none ↔
      (keywordsOf (readings.map Prod.snd)).Nodup := by
  rw [repeatedHeader?_eq_none_iff rfl]
  simp [keywordsOf]

theorem exists_repeatsFirst
    {readings : List (Line × Statement)}
    (repeated : ¬ (keywordsOf (readings.map Prod.snd)).Nodup) :
    ∃ line made, RepeatsFirst readings line made ∧
      repeatedHeader? [] readings = some (line, made.keyword) := by
  cases found : repeatedHeader? [] readings with
  | none => exact (repeated (repeatedHeader?_nil_eq_none_iff.mp found)).elim
  | some first =>
      rcases first with ⟨line, keyword⟩
      rcases repeatedHeader?_eq_some_iff.mp found with
        ⟨before, made, after, composed, unrepeated, rfl, again⟩
      exact
        ⟨line, made,
          ⟨before, after, composed, repeatedHeader?_nil_eq_none_iff.mp unrepeated,
            again.resolve_left List.not_mem_nil⟩, rfl⟩

theorem RepeatsFirst.isRepeated_ofRepeated
    {source : List Char} {readings : List (Line × Statement)}
    {line : Line} {made : Header}
    (first : RepeatsFirst readings line made)
    (reads : Reads (Line.cut 0 source) readings) :
    (Report.ofRepeated source line made.keyword).IsRepeated source line made := by
  rcases first with ⟨before, after, rfl, -⟩
  have member : (line, Statement.header made) ∈
      before ++ (line, .header made) :: after := by
    simp
  apply Format.isRepeated_ofRepeated
  · rw [← reads.lines_eq]
    exact List.mem_map_of_mem member
  · exact reads.makes _ member

/-! ## Outcomes of reading -/

section Outcomes

variable
    {source : List Char}
    {readings : List (Line × Statement)}

theorem exists_readLines_eq_error
    {lines : List Line}
    (malformed : ∃ line ∈ lines, IsMalformed line.text) :
    ∃ line obstacle, readLines lines = .error (line, obstacle) := by
  cases read : readLines lines with
  | error fault => exact ⟨fault.1, fault.2, rfl⟩
  | ok readings =>
      rcases readLines_eq_ok_iff.mp read with ⟨rfl, makes⟩
      rcases malformed with ⟨line, member, malformed⟩
      rcases List.mem_map.mp member with ⟨reading, memberReading, rfl⟩
      exact (malformed _ (makes reading memberReading)).elim

theorem parseTrimmed_of_readLines_eq_error
    {line : Line} {obstacle : Obstacle}
    (read : readLines (Line.cut 0 source) = .error (line, obstacle)) :
    Description.parseTrimmed source =
      .error (.report (.ofObstacle source line obstacle)) := by
  rw [Description.parseTrimmed, read]

theorem parseTrimmed_of_repeated
    {line : Line} {keyword : Keyword}
    (reads : Reads (Line.cut 0 source) readings)
    (repeated : repeatedHeader? [] readings = some (line, keyword)) :
    Description.parseTrimmed source =
      .error (.report (.ofRepeated source line keyword)) := by
  rw [Description.parseTrimmed, readLines_eq_ok_iff.mpr reads]
  simp only [repeated]

theorem parseTrimmed_of_nodup
    (reads : Reads (Line.cut 0 source) readings)
    (distinct : (keywordsOf (readings.map Prod.snd)).Nodup) :
    Description.parseTrimmed source =
      (assemble (readings.map Prod.snd)).mapError
        fun keyword => .invalid (.missing keyword) := by
  rw [Description.parseTrimmed, readLines_eq_ok_iff.mpr reads]
  simp only [repeatedHeader?_nil_eq_none_iff.mpr distinct]
  cases assemble (readings.map Prod.snd) <;> rfl

/-- A text fails by its lines, by a repeated header, or by a missing one. -/
theorem parseTrimmed_eq_error_cases
    {error : MachineError}
    (failed : Description.parseTrimmed source = .error error) :
    (∃ report, error = .report report ∧ report.IsSyntax) ∨
    (∃ report line made, error = .report report ∧
      report.IsRepeated source line made) ∨
    ∃ keyword, error = .invalid (.missing keyword) := by
  cases read : readLines (Line.cut 0 source) with
  | error fault =>
      rw [parseTrimmed_of_readLines_eq_error read] at failed
      cases failed
      exact Or.inl ⟨_, rfl, isSyntax_ofObstacle source fault.1 fault.2⟩
  | ok readings =>
      have reads := readLines_eq_ok_iff.mp read
      by_cases distinct : (keywordsOf (readings.map Prod.snd)).Nodup
      · rw [parseTrimmed_of_nodup reads distinct] at failed
        cases assembled : assemble (readings.map Prod.snd) with
        | error keyword =>
            rw [assembled] at failed
            cases failed
            exact Or.inr (Or.inr ⟨keyword, rfl⟩)
        | ok description =>
            rw [assembled] at failed
            cases failed
      · rcases exists_repeatsFirst distinct with ⟨line, made, first, found⟩
        rw [parseTrimmed_of_repeated reads found] at failed
        cases failed
        exact
          Or.inr
            (Or.inl ⟨_, line, made, rfl, first.isRepeated_ofRepeated reads⟩)

end Outcomes

end TapeMachine.Format

namespace TapeMachine.Description

open Format

theorem parse_of_tooLarge
    {text : String}
    (tooLarge : sizeLimit < text.utf8ByteSize) :
    parse text = .error (.invalid (.tooLarge text.utf8ByteSize)) := by
  rw [parse, if_pos tooLarge]

end TapeMachine.Description
