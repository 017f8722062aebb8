import TapeMachine.Proofs.Format.Line
import TapeMachine.Proofs.Format.Padding

/-!
# Where a report points

A report on a description text names a place: a line and a column.  The place is
counted in the text without the white space around it, so it is right for the
text itself only if no white space stands in front.

This module says what the place has to do with the text.  Every line knows how
many characters stand before it, and a report points into a line, in which places
move by columns.  A place moves in a known way when something is put in front of
its text.  Together this tells by how much a report is off: by the lines that the
white space in front fills, and on the first line by the columns it fills as well.
-/

namespace TapeMachine

namespace Format

/-! ## Lines stand where they say -/

namespace Line

/-- The first line begins where the text does. -/
theorem exists_cut_eq_cons (offset : Nat) (text : List Char) :
    ∃ first more after,
      cut offset text = first :: more ∧ first.offset = offset ∧
        text = first.text ++ after := by
  fun_induction cut offset text with
  | case1 offset => exact ⟨_, [], [], rfl, rfl, rfl⟩
  | case2 offset rest => exact ⟨_, _, _, rfl, rfl, rfl⟩
  | case3 offset c rest => exact ⟨_, _, _, rfl, rfl, rfl⟩
  | case4 offset c rest _ _ induction =>
      rcases induction with ⟨first, more, after, isCut, -, composed⟩
      rw [isCut]
      refine ⟨_, more, after, rfl, rfl, ?_⟩
      rw [composed]
      rfl

/-- The text of a line is found behind as many characters as its offset says. -/
theorem exists_append_of_mem_cut
    {offset : Nat} {text : List Char} {line : Line}
    (member : line ∈ cut offset text) :
    ∃ before after,
      text = before ++ (line.text ++ after) ∧
        line.offset = offset + before.length := by
  fun_induction cut offset text with
  | case1 offset =>
      rw [List.mem_singleton] at member
      subst member
      exact ⟨[], [], rfl, rfl⟩
  | case2 offset rest induction =>
      rcases List.mem_cons.mp member with rfl | later
      · exact ⟨[], _, rfl, rfl⟩
      · rcases induction later with ⟨before, after, rfl, place⟩
        refine ⟨'\r' :: '\n' :: before, after, rfl, ?_⟩
        rw [place, List.length_cons, List.length_cons]
        omega
  | case3 offset c rest _ _ induction =>
      rcases List.mem_cons.mp member with rfl | later
      · exact ⟨[], _, rfl, rfl⟩
      · rcases induction later with ⟨before, after, rfl, place⟩
        refine ⟨c :: before, after, rfl, ?_⟩
        rw [place, List.length_cons]
        omega
  | case4 offset c rest _ _ induction =>
      rcases exists_cut_eq_cons (offset + 1) rest with
        ⟨first, more, after, isCut, -, composed⟩
      rw [isCut] at member induction
      rcases List.mem_cons.mp member with rfl | later
      · exact ⟨[], after, by rw [composed]; rfl, rfl⟩
      · rcases induction (List.mem_cons_of_mem _ later) with
          ⟨before, after, rfl, place⟩
        refine ⟨c :: before, after, rfl, ?_⟩
        rw [place, List.length_cons]
        omega

end Line

/-! ## Places behind other text -/

/-- The place in a text once the text stands behind another one. -/
def Place.behind (lead : List Char) (place : Place) : Place where
  line := place.line + lead.count '\n'
  column :=
    if place.line = 1 then
      (lineBefore lead lead.length).length + place.column
    else place.column

theorem Place.behind_feed (place : Place) :
    place.behind ['\n'] = { place with line := place.line + 1 } := by
  have nothing : (lineBefore ['\n'] 1).length = 0 := by decide
  simp [Place.behind, nothing]

theorem Place.behind_of_ne_feed
    {c : Char} {place : Place} (other : c ≠ '\n') (below : place.line ≠ 1) :
    place.behind [c] = place := by
  simp [Place.behind, other, below]

/-- The scan back to a line feed goes through all of a text without one. -/
theorem length_takeWhile_reverse_eq_iff (text : List Char) :
    (text.reverse.takeWhile (· != '\n')).length = text.reverse.length ↔
      text.count '\n' = 0 := by
  have wholeOrNot :
      (text.reverse.takeWhile (· != '\n')).length = text.reverse.length ↔
        text.reverse.takeWhile (· != '\n') = text.reverse :=
    ⟨(List.takeWhile_prefix _).eq_of_length, congrArg List.length⟩
  rw [wholeOrNot, List.takeWhile_eq_self_iff, List.count_eq_zero]
  simp only [List.mem_reverse, bne_iff_ne]
  constructor
  · intro noFeed member
    exact noFeed '\n' member rfl
  · rintro noFeed c member rfl
    exact noFeed member

theorem ofOffset_append
    (lead text : List Char) (offset : Nat) :
    Place.ofOffset (lead ++ text) (lead.length + offset) =
      (Place.ofOffset text offset).behind lead := by
  have taken :
      (lead ++ text).take (lead.length + offset) =
        lead ++ text.take offset :=
    List.take_length_add_append offset
  simp only [Place.ofOffset, Place.behind, lineBefore, taken,
    List.take_length, List.reverse_append, List.length_reverse,
    List.count_append, Place.mk.injEq, Nat.add_eq_right]
  generalize text.take offset = front
  refine ⟨by omega, ?_⟩
  rw [List.takeWhile_append]
  by_cases sameLine : front.count '\n' = 0
  · rw [if_pos ((length_takeWhile_reverse_eq_iff front).mpr sameLine),
      if_pos sameLine, List.length_append,
      (length_takeWhile_reverse_eq_iff front).mpr sameLine]
    omega
  · rw [if_neg (mt (length_takeWhile_reverse_eq_iff front).mp sameLine),
      if_neg sameLine]

/-- As long as no line feed is passed a place moves by columns. -/
theorem ofOffset_append_of_no_feed
    (front rest : List Char) {core : List Char}
    (noFeed : '\n' ∉ core) :
    Place.ofOffset (front ++ (core ++ rest)) (front.length + core.length) =
      { Place.ofOffset (front ++ (core ++ rest)) front.length with
        column :=
          (Place.ofOffset (front ++ (core ++ rest)) front.length).column +
            core.length } := by
  have atFront :
      (front ++ (core ++ rest)).take front.length = front := by
    simp
  have behindCore :
      (front ++ (core ++ rest)).take (front.length + core.length) =
        front ++ core := by
    rw [List.take_length_add_append, List.take_left]
  have scanned :
      core.reverse.takeWhile (· != '\n') = core.reverse := by
    rw [List.takeWhile_eq_self_iff]
    intro c member
    rw [bne_iff_ne]
    rintro rfl
    exact noFeed (List.mem_reverse.mp member)
  have counted : core.count '\n' = 0 :=
    List.count_eq_zero.mpr noFeed
  simp only [Place.ofOffset, lineBefore, atFront, behindCore,
    List.reverse_append, List.count_append, counted, List.length_reverse,
    Place.mk.injEq]
  rw [List.takeWhile_append, scanned]
  simp
  omega

/-! ## Places in a line -/

namespace Line

/-- In a line a place moves by columns. -/
theorem ofOffset_add
    {source : List Char} {line : Line} {within : Nat}
    (member : line ∈ cut 0 source) (inLine : within ≤ line.text.length) :
    Place.ofOffset source (line.offset + within) =
      { Place.ofOffset source line.offset with
        column := (Place.ofOffset source line.offset).column + within } := by
  rcases exists_append_of_mem_cut member with ⟨front, back, isSource, isOffset⟩
  have isLine : IsLineText line.text :=
    (splits_cut 0 source).isLineText (List.mem_map_of_mem member)
  have noFeed : '\n' ∉ line.text.take within := by
    intro feed
    have ended := isLine '\n' (List.mem_of_mem_take feed)
    cases ended
  have split :
      source =
        front ++ (line.text.take within ++ (line.text.drop within ++ back)) := by
    rw [← List.append_assoc (line.text.take within), List.take_append_drop]
    exact isSource
  have moved :=
    ofOffset_append_of_no_feed front (line.text.drop within ++ back) noFeed
  rwa [← split, List.length_take_of_le inLine, ← Nat.zero_add front.length,
    ← isOffset] at moved

/-- Where all lines end with line feeds they are counted, and each begins at the first column. -/
theorem ofOffset_of_cut
    {offset : Nat} {text : List Char} {before after : List Line} {line : Line}
    (noReturn : '\r' ∉ text) (isCut : cut offset text = before ++ line :: after) :
    ∃ within, line.offset = offset + within ∧
      Place.ofOffset text within = { line := before.length + 1, column := 1 } := by
  fun_induction cut offset text generalizing before with
  | case1 offset =>
      rcases List.singleton_eq_append_iff.mp isCut with
        ⟨rfl, isLine⟩ | ⟨-, nothing⟩
      · cases isLine
        exact ⟨0, rfl, rfl⟩
      · cases nothing
  | case2 offset rest => simp at noReturn
  | case3 offset c rest _ isEnd induction =>
      have isFeed : c = '\n' := by
        rcases isEnd with rfl | rfl
        · rfl
        · simp at noReturn
      subst isFeed
      cases before with
      | nil =>
          cases isCut
          exact ⟨0, rfl, rfl⟩
      | cons first before =>
          rcases List.cons_eq_cons.mp isCut with ⟨-, isCut⟩
          rcases induction (List.not_mem_of_not_mem_cons noReturn) isCut with
            ⟨within, isOffset, place⟩
          refine ⟨1 + within, by omega, ?_⟩
          have moved := ofOffset_append ['\n'] rest within
          rwa [place, Place.behind_feed] at moved
  | case4 offset c rest _ notEnd induction =>
      rcases exists_cut_eq_cons (offset + 1) rest with
        ⟨first, more, -, isRest, -, -⟩
      rw [isRest] at isCut induction
      cases before with
      | nil =>
          cases isCut
          exact ⟨0, rfl, rfl⟩
      | cons first' before =>
          rcases List.cons_eq_cons.mp isCut with ⟨-, rfl⟩
          rcases @induction (first :: before)
              (List.not_mem_of_not_mem_cons noReturn) rfl with
            ⟨within, isOffset, place⟩
          refine ⟨1 + within, by omega, ?_⟩
          have noFeed : c ≠ '\n' := fun isFeed => notEnd (Or.inl isFeed)
          have moved := ofOffset_append [c] rest within
          rwa [place, Place.behind_of_ne_feed noFeed (by simp)] at moved

end Line

/-! ## The place of a report -/

theorem mem_of_readLines_eq_error
    {lines : List Line} {line : Line} {obstacle : Obstacle}
    (read : readLines lines = .error (line, obstacle)) :
    line ∈ lines := by
  induction lines with
  | nil => cases read
  | cons first lines induction =>
      rw [readLines] at read
      split at read
      · cases read
        exact List.mem_cons_self
      · cases readRest : readLines lines with
        | error fault =>
            rw [readRest] at read
            cases read
            exact List.mem_cons_of_mem _ (induction readRest)
        | ok readings =>
            rw [readRest] at read
            cases read

theorem map_fst_of_readLines
    {lines : List Line} {readings : List (Line × Statement)}
    (read : readLines lines = .ok readings) :
    readings.map Prod.fst = lines := by
  induction lines generalizing readings with
  | nil =>
      cases read
      rfl
  | cons first lines induction =>
      rw [readLines] at read
      split at read
      · cases read
      · cases readRest : readLines lines with
        | error fault =>
            rw [readRest] at read
            cases read
        | ok rest =>
            rw [readRest] at read
            cases read
            rw [List.map_cons, induction readRest]

theorem mem_of_repeatedHeader?_eq_some
    {seen : List Keyword} {readings : List (Line × Statement)}
    {line : Line} {keyword : Keyword}
    (repeated : repeatedHeader? seen readings = some (line, keyword)) :
    line ∈ readings.map Prod.fst := by
  induction readings generalizing seen with
  | nil => cases repeated
  | cons reading readings induction =>
      rcases reading with ⟨first, statement⟩
      rw [List.map_cons]
      rw [repeatedHeader?] at repeated
      split at repeated
      · exact List.mem_cons_of_mem _ (induction repeated)
      · split at repeated
        · cases repeated
          exact List.mem_cons_self
        · exact List.mem_cons_of_mem _ (induction repeated)

/-- A report points into a line of the text it is a report on. -/
theorem exists_line_of_report
    {source : List Char} {report : Report}
    (failed : Description.parseTrimmed source = .error (.report report)) :
    ∃ line ∈ Line.cut 0 source, ∃ within ≤ line.text.length,
      report.place = .ofOffset source (line.offset + within) := by
  rw [Description.parseTrimmed] at failed
  split at failed
  · next line obstacle read =>
      cases failed
      exact
        ⟨line, mem_of_readLines_eq_error read, _, Nat.sub_le _ _, rfl⟩
  · next readings read =>
      split at failed
      · next line keyword repeated =>
          cases failed
          have member := mem_of_repeatedHeader?_eq_some repeated
          rw [map_fst_of_readLines read] at member
          exact
            ⟨line, member, _, (List.takeWhile_prefix _).length_le, rfl⟩
      · split at failed <;> cases failed

theorem exists_offset_of_report
    {source : List Char} {report : Report}
    (failed : Description.parseTrimmed source = .error (.report report)) :
    ∃ offset ≤ source.length, report.place = .ofOffset source offset := by
  rcases exists_line_of_report failed with
    ⟨line, member, within, bounded, isPlace⟩
  refine ⟨_, ?_, isPlace⟩
  rcases Line.exists_append_of_mem_cut member with
    ⟨before, after, composed, place⟩
  have length := congrArg List.length composed
  simp only [List.length_append] at length
  omega

/-- The report with its place on a later line. -/
def Report.lower (count : Nat) (report : Report) : Report :=
  { report with place.line := report.place.line + count }

theorem Report.lower_eq_self_iff
    (count : Nat) (report : Report) :
    report.lower count = report ↔ count = 0 := by
  constructor
  · intro same
    have sameLine := congrArg (fun report => report.place.line) same
    exact Nat.add_eq_left.mp sameLine
  · rintro rfl
    rfl

/-- So many line feeds. -/
def lineFeeds (count : Nat) : String :=
  String.ofList (List.replicate count '\n')

theorem isWhiteSpace_of_mem_lineFeeds
    {count : Nat} {c : Char}
    (member : c ∈ (lineFeeds count).toList) :
    Text.isWhiteSpace c = true := by
  rw [lineFeeds, String.toList_ofList] at member
  rw [List.eq_of_mem_replicate member]
  decide

end Format

namespace Description

open Format

theorem parse_lineFeeds_append
    {count : Nat} {text : String}
    (within : (lineFeeds count ++ text).utf8ByteSize ≤ sizeLimit) :
    parse (lineFeeds count ++ text) = parse text := by
  have padded :=
    parse_padded (fun _ => isWhiteSpace_of_mem_lineFeeds)
      (List.forall_mem_nil _)
      (by rwa [String.append_empty] :
        (lineFeeds count ++ text ++ "").utf8ByteSize ≤ sizeLimit)
  rwa [String.append_empty] at padded

theorem parse_eq_parseTrimmed_of_report
    {text : String} {report : Report}
    (failed : parse text = .error (.report report)) :
    parseTrimmed (Text.trim text.toList) = .error (.report report) := by
  rw [parse] at failed
  split at failed
  · cases failed
  · exact failed

/--
Line feeds in front of a text leave its report as it is, although they move
everything in the text to a later line.  A report is the report on the text
without the white space in front, so its place is that of some character there;
in the text itself the same character stands at this place moved behind that
white space.
-/
theorem report_ignores_leading_whiteSpace
    (text : String) (report : Report)
    (failed : parse text = .error (.report report)) :
    (∀ count : Nat, (lineFeeds count ++ text).utf8ByteSize ≤ 65536 →
      parse (lineFeeds count ++ text) = .error (.report report) ∧
      (parse (lineFeeds count ++ text) =
          .error (.report (report.lower count)) ↔ count = 0)) ∧
    ∃ offset ≤ (Text.trim text.toList).length,
      report.place = .ofOffset (Text.trim text.toList) offset ∧
      Place.ofOffset text.toList
          ((text.toList.takeWhile Text.isWhiteSpace).length + offset) =
        report.place.behind (text.toList.takeWhile Text.isWhiteSpace) := by
  constructor
  · intro count within
    have same := (parse_lineFeeds_append within).trans failed
    refine ⟨same, ?_⟩
    rw [same, ← report.lower_eq_self_iff]
    simp only [Except.error.injEq, MachineError.report.injEq, eq_comm]
  · rcases exists_offset_of_report
        (parse_eq_parseTrimmed_of_report failed) with
      ⟨offset, bounded, isPlace⟩
    refine ⟨offset, bounded, isPlace, ?_⟩
    rcases exists_eq_takeWhile_append_trim text.toList with ⟨after, composed⟩
    have samePlace :
        Place.ofOffset (Text.trim text.toList ++ after) offset =
          report.place := by
      rw [isPlace]
      simp only [Place.ofOffset, lineBefore,
        List.take_append_of_le_length bounded]
    generalize text.toList.takeWhile Text.isWhiteSpace = lead at composed ⊢
    rw [composed, ofOffset_append, samePlace]

/-- A letter that a symbol should follow. -/
def strayLetter : Report where
  place := { line := 1, column := 2 }
  endColumn? := none
  excerpt := ['x']
  complaint := .expected [.symbol]

theorem report_ignores_leading_whiteSpace_stray_letter :
    parse "\n  x" = .error (.report strayLetter) ∧
    parse (lineFeeds 3 ++ "\n  x") = .error (.report strayLetter) ∧
    ∃ offset ≤ 1,
      strayLetter.place = .ofOffset ['x'] offset ∧
      Place.ofOffset ['\n', ' ', ' ', 'x'] (3 + offset) =
        { line := 2, column := 4 } := by
  have failed : parse "\n  x" = .error (.report strayLetter) := by
    decide +kernel
  have reported :=
    report_ignores_leading_whiteSpace "\n  x" strayLetter failed
  refine ⟨failed, (reported.1 3 (by decide +kernel)).1, ?_⟩
  rcases reported.2 with ⟨offset, bounded, isPlace, moved⟩
  exact ⟨offset, bounded, isPlace, moved⟩

/-- A header that was given before. -/
def repeatedStart : Report where
  place := { line := 2, column := 1 }
  endColumn? := some 11
  excerpt := "start: off".toList
  complaint := .repeated .start

/-- A line feed in front moves neither kind of report to the next line. -/
theorem report_not_lowered_by_lineFeed :
    (parse "x" = .error (.report strayLetter) ∧
      (lineFeeds 1 ++ "x").utf8ByteSize ≤ 65536 ∧
      parse (lineFeeds 1 ++ "x") ≠ .error (.report (strayLetter.lower 1))) ∧
    parse "start: on\nstart: off" = .error (.report repeatedStart) ∧
      (lineFeeds 1 ++ "start: on\nstart: off").utf8ByteSize ≤ 65536 ∧
      parse (lineFeeds 1 ++ "start: on\nstart: off") ≠
        .error (.report (repeatedStart.lower 1)) := by
  refine ⟨⟨?_, ?_, ?_⟩, ?_, ?_, ?_⟩ <;> decide +kernel

end Description

end TapeMachine
