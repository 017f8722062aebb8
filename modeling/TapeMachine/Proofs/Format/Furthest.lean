import TapeMachine.Proofs.Format.Faults
import TapeMachine.Proofs.Format.Trial

/-!
# Where reading a text gets stuck

The expression of a description is tried on a text as a whole: a line and its end
as often as possible, then a last line and the end of the text.  At the first line
that makes no statement this comes to nothing.  The repetition is over there, the
line is tried once more as the last one, and nothing behind it is tried at all.

So the failures furthest on are failures in this line, and the line and the column
that are reported are in it.  The lines above it have left failures too, but none
that is further on than where the line begins.

If every line makes a statement, a tree is found for the description, with the trees
of the lines in it and one for the end of the text behind them.
-/

namespace TapeMachine.Format

namespace Expression

variable
    {size : Nat}
    {line rest tail text : List Char}
    {trees : List Tree}
    {attempts attempts' : Attempts}
    {obstacle : Obstacle}

/-! ## What is left of a text -/

theorem behind_eq_some_iff
    {outcome : Outcome} {trees' : List Tree} :
    behind trees outcome = (some (trees', rest), attempts') ↔
      ∃ later, outcome = (some (later, rest), attempts') ∧
        trees' = trees ++ later := by
  rcases outcome with ⟨_ | ⟨later, rest'⟩, after⟩
  · simp [behind]
  · simp only [behind, Prod.mk.injEq, Option.some.injEq]
    constructor
    · rintro ⟨⟨rfl, rfl⟩, rfl⟩
      exact ⟨later, ⟨⟨rfl, rfl⟩, rfl⟩, rfl⟩
    · rintro ⟨later, ⟨⟨rfl, rfl⟩, rfl⟩, rfl⟩
      exact ⟨⟨rfl, rfl⟩, rfl⟩

theorem behind_behind
    (trees later : List Tree) (outcome : Outcome) :
    behind trees (behind later outcome) = behind (trees ++ later) outcome := by
  rcases outcome with ⟨_ | found, attempts⟩ <;> simp [behind]

theorem suffix_of_repeated
    {attempt : List Char → Attempts → Outcome}
    {text rest : List Char} {trees : List Tree} {attempts attempts' : Attempts}
    (leaves :
      ∀ {text trees rest attempts attempts'},
        attempt text attempts = (some (trees, rest), attempts') → rest <:+ text)
    (taken : repeated attempt text attempts = (some (trees, rest), attempts')) :
    rest <:+ text := by
  rw [repeated] at taken
  split at taken
  · cases taken
    exact List.suffix_rfl
  · next trees' rest' after takenOnce =>
      split at taken
      · next shorter =>
          rcases behind_eq_some_iff.mp taken with ⟨later, takenAgain, -⟩
          exact (suffix_of_repeated leaves takenAgain).trans (leaves takenOnce)
      · cases taken
        exact leaves takenOnce
termination_by text.length

theorem between_suffix (inToken : Bool) (text : List Char) :
    between inToken text <:+ text := by
  cases inToken with
  | true => exact List.suffix_refl text
  | false => exact skipGap_suffix text

theorem tracked_eq_some_iff
    {part : Part} {outcome : Outcome} :
    tracked size part text attempts outcome = (some (trees, rest), attempts') ↔
      ∃ inner, outcome = (some (inner, rest), attempts') ∧
        trees = [.found size part text rest inner] := by
  rcases outcome with ⟨_ | ⟨inner, rest'⟩, after⟩
  · simp [tracked]
  · simp only [tracked, Prod.mk.injEq, Option.some.injEq]
    constructor
    · rintro ⟨⟨rfl, rfl⟩, rfl⟩
      exact ⟨inner, ⟨⟨rfl, rfl⟩, rfl⟩, rfl⟩
    · rintro ⟨inner, ⟨⟨rfl, rfl⟩, rfl⟩, rfl⟩
      exact ⟨⟨rfl, rfl⟩, rfl⟩

/-- What an expression leaves of a text is an end of the text. -/
theorem suffix_of_run
    {expression : Expression} {inToken : Bool}
    (taken :
      run size expression inToken text attempts =
        (some (trees, rest), attempts')) :
    rest <:+ text := by
  induction expression generalizing inToken text trees rest attempts attempts' with
  | textStart | textEnd =>
      simp only [run, Prod.mk.injEq, Option.ite_none_right_eq_some] at taken
      rcases taken with ⟨⟨-, same⟩, -⟩
      cases same
      exact List.suffix_rfl
  | any =>
      cases text with
      | nil => cases taken
      | cons c rest =>
          cases taken
          exact List.suffix_cons c _
  | mark expected =>
      simp only [run, Prod.mk.injEq, Option.map_eq_some_iff] at taken
      rcases taken with ⟨⟨rest', marked, -, rfl⟩, -⟩
      rw [afterMark?_eq_some_iff.mp marked]
      exact List.suffix_append expected rest'
  | seq first second inductionFirst inductionSecond =>
      rw [run] at taken
      split at taken
      · cases taken
      · next trees' middle after takenFirst =>
          rcases behind_eq_some_iff.mp taken with ⟨later, takenSecond, -⟩
          exact
            (inductionSecond takenSecond).trans
              ((between_suffix inToken middle).trans (inductionFirst takenFirst))
  | choice first second inductionFirst inductionSecond =>
      rw [run] at taken
      split at taken
      · exact inductionSecond taken
      · next takenFirst =>
          cases taken
          exact inductionFirst takenFirst
  | optional body induction =>
      rw [run] at taken
      split at taken
      · cases taken
        exact List.suffix_rfl
      · next takenBody =>
          cases taken
          exact induction takenBody
  | many body induction =>
      rw [run] at taken
      split at taken
      · cases taken
        exact List.suffix_rfl
      · next trees' middle after takenBody =>
          rcases behind_eq_some_iff.mp taken with ⟨later, takenOthers, -⟩
          exact
            (suffix_of_repeated
              (fun taken =>
                (induction taken).trans (between_suffix inToken _))
              takenOthers).trans
              (induction takenBody)
  | except body induction =>
      simp only [run, Prod.mk.injEq, Option.ite_none_right_eq_some] at taken
      rcases taken with ⟨⟨-, same⟩, -⟩
      cases same
      exact List.suffix_rfl
  | rule part body induction | token part body induction =>
      rw [run] at taken
      split at taken
      · exact induction taken
      · rcases tracked_eq_some_iff.mp taken with ⟨inner, takenBody, -⟩
        exact induction takenBody

/-! ## One line after the other -/

theorem length_lt_of_run_lineEnd
    (taken :
      run size lineEnd false text attempts = (some (trees, rest), attempts')) :
    rest.length < text.length := by
  have marked (mark' : List Char) (nonempty : mark' ≠ [])
      (found : afterMark? mark' text = some rest) : rest.length < text.length := by
    rw [afterMark?_eq_some_iff.mp found, List.length_append]
    exact Nat.lt_add_of_pos_left (List.length_pos_iff.mpr nonempty)
  simp only [lineEnd, run] at taken
  cases feed : afterMark? ['\n'] text with
  | some rest' =>
      rw [feed] at taken
      cases taken
      exact marked _ (by simp) feed
  | none =>
      cases pair : afterMark? ['\r', '\n'] text with
      | some rest' =>
          rw [feed, pair] at taken
          cases taken
          exact marked _ (by simp) pair
      | none =>
          cases carriage : afterMark? ['\r'] text with
          | some rest' =>
              rw [feed, pair, carriage] at taken
              cases taken
              exact marked _ (by simp) carriage
          | none =>
              rw [feed, pair, carriage] at taken
              cases taken

/-- Tries a line with its end where a gap may stand in front of it. -/
def tryEndedLine (size : Nat) (text : List Char) (attempts : Attempts) : Outcome :=
  run size endedLine false (skipGap text) attempts

theorem length_lt_of_tryEndedLine
    (taken : tryEndedLine size text attempts = (some (trees, rest), attempts')) :
    rest.length < text.length := by
  rw [tryEndedLine, endedLine, run] at taken
  split at taken
  · cases taken
  · next trees' middle after takenLine =>
      rcases behind_eq_some_iff.mp taken with ⟨later, takenEnd, -⟩
      have behindLine := (suffix_of_run takenLine).length_le
      have behindEnd := length_lt_of_run_lineEnd takenEnd
      have skipped := length_skipGap_le text
      rw [between_false] at behindEnd
      have skippedBehind := length_skipGap_le middle
      omega

/-- Goes on over lines that have an end, and then to the end of the text. -/
def runLines (size : Nat) (text : List Char) (attempts : Attempts) : Outcome :=
  match repeated (tryEndedLine size) text attempts with
  | (none, attempts) => (none, attempts)
  | (some (trees, rest), attempts) =>
    behind trees (run size lastLine false (skipGap rest) attempts)

theorem runLines_of_matches
    (taken : tryEndedLine size text attempts = (some (trees, rest), attempts')) :
    runLines size text attempts = behind trees (runLines size rest attempts') := by
  rw [runLines, repeated_of_matches taken (length_lt_of_tryEndedLine taken),
    runLines]
  rcases repeated (tryEndedLine size) rest attempts' with
    ⟨_ | ⟨later, rest'⟩, after⟩
  · rfl
  · exact (behind_behind trees later _).symm

theorem runLines_of_fails
    (fails : tryEndedLine size text attempts = (none, attempts')) :
    runLines size text attempts =
      run size lastLine false (skipGap text) attempts' := by
  rw [runLines, repeated_of_fails fails]
  exact behind_nil _

theorem run_description (text : List Char) (attempts : Attempts) :
    run text.length description false text attempts =
      tracked text.length .description text attempts
        (runLines text.length text attempts) := by
  have started :
      run text.length textStart false text attempts =
        (some ([], text), attempts) := by
    simp
  rw [description, run, if_neg (by simp), run_seq_of_matches started, behind_nil]
  congr 1
  rcases tried : tryEndedLine text.length text attempts with
    ⟨_ | ⟨trees, rest⟩, attempts'⟩
  · have noneEnded :
        run text.length (many endedLine) false (skipGap text) attempts =
          (some ([], skipGap text), attempts') := by
      rw [tryEndedLine] at tried
      rw [run, tried]
    rw [run_seq_of_matches noneEnded, skipGap_skipGap, runLines_of_fails tried,
      behind_nil]
  · have someEnded :
        run text.length (many endedLine) false (skipGap text) attempts =
          behind trees (repeated (tryEndedLine text.length) rest attempts') := by
      rw [tryEndedLine] at tried
      rw [run, tried]
      rfl
    rw [runLines_of_matches tried, runLines, run, someEnded]
    rcases repeated (tryEndedLine text.length) rest attempts' with
      ⟨_ | ⟨later, rest'⟩, after⟩
    · rfl
    · exact (behind_behind trees later _).symm

theorem run_lineEnd_append
    {ending : List Char}
    (ended : Ending ending rest) (attempts : Attempts) :
    run size lineEnd false (ending ++ rest) attempts =
      (some ([], rest), attempts) := by
  cases ended with
  | feed => simp [lineEnd]
  | pair => simp [lineEnd]
  | carriage alone =>
      cases rest with
      | nil => simp [lineEnd]
      | cons c rest =>
          have other : c ≠ '\n' := by simpa using alone
          simp [lineEnd, other]

theorem endsLine_append_of_ending
    {ending : List Char}
    (ended : Ending ending rest) :
    EndsLine (ending ++ rest) := by
  cases ended <;> simp [isLineEnd]

/-- A line that makes a statement is gone over, and what failed in it is not behind it. -/
theorem exists_tryEndedLine_of_ok
    {ending : List Char} {statement' : Statement} {offset : Nat}
    (isSize : offset + (line ++ (ending ++ rest)).length = size)
    (isLine : IsLineText line) (ended : Ending ending rest)
    (read : Statement.read line = .ok statement') :
    ∃ (trees : List Tree) (failures : List Failure),
      TellsLine offset line statement' trees ∧
      (∀ failure ∈ failures, (ending ++ rest).length ≤ failure.left) ∧
        ∀ attempts,
          tryEndedLine size (line ++ (ending ++ rest)) attempts =
            (some (trees, rest), attempts.pushAll failures) := by
  have ends := endsLine_append_of_ending ended
  rcases exists_run_optional_line_of_ok isSize isLine ends read with
    ⟨trees, gap, failures, told, isGapText, notBehind, taken⟩
  refine ⟨trees, failures, told, notBehind, fun attempts => ?_⟩
  rw [tryEndedLine, ends.skipGap_append, endedLine,
    run_seq_of_matches (taken attempts), ends.skipGap_append,
    skipGap_eq_nil_iff.mpr isGapText, List.nil_append, run_lineEnd_append ended,
    behind, List.append_nil]

theorem run_lineEnd_of_beginsOutside
    (outside : BeginsOutside isLineEnd text) :
    run size lineEnd false text attempts = (none, attempts) :=
  Prod.ext (run_lineEnd_eq_none_iff.mpr outside) run_lineEnd_attempts

/-- The tree for the end of a text of `size` characters. -/
def finishTree (size : Nat) : Tree where
  part := .finish
  offset := size
  text := []
  inner := []

theorem exists_runLines_of_ok
    {statement' : Statement} {offset : Nat}
    (isSize : offset + line.length = size)
    (isLine : IsLineText line)
    (read : Statement.read line = .ok statement') (attempts : Attempts) :
    ∃ trees attempts', TellsLine offset line statement' trees ∧
      runLines size line attempts =
        (some (trees ++ [finishTree size], []), attempts') := by
  rw [← List.append_nil line] at isSize
  rcases exists_run_optional_line_of_ok isSize isLine endsLine_nil read with
    ⟨trees, gap, failures, told, isGapText, -, taken⟩
  simp only [List.append_nil] at taken
  have notEnded :
      tryEndedLine size line attempts = (none, attempts.pushAll failures) := by
    rw [tryEndedLine, endedLine, run_seq_of_matches (taken attempts),
      skipGap_eq_nil_iff.mpr isGapText,
      run_lineEnd_of_beginsOutside beginsOutside_nil]
    rfl
  refine ⟨trees, (attempts.pushAll failures).pushAll failures, told, ?_⟩
  rw [runLines_of_fails notEnded, lastLine, run_seq_of_matches (taken _),
    skipGap_eq_nil_iff.mpr isGapText]
  rfl

/-- Where the first line makes no statement, what fails furthest on is what this line lacks. -/
theorem exists_runLines_of_error
    (isLine : IsLineText line) (ends : EndsLine tail)
    (failed : Statement.read line = .error obstacle)
    (fresh : attempts.IsFreshAt (line ++ tail).length) :
    ∃ attempts', runLines size (line ++ tail) attempts = (none, attempts') ∧
      attempts'.left = (obstacle.rest ++ tail).length ∧
        ∀ part, part ∈ attempts'.parts ↔ part ∈ obstacle.lack.parts false := by
  rcases exists_run_optional_line_of_error isLine ends failed with
    ⟨trees, rest, failures, isRest, more, leads, taken⟩
  let finish : Failure := { part := .finish, left := (skipGap rest ++ tail).length }
  have outside : BeginsOutside isLineEnd (skipGap rest ++ tail) :=
    beginsOutside_append more isRest tail
  have notEnded :
      tryEndedLine size (line ++ tail) attempts =
        (none, attempts.pushAll failures) := by
    rw [tryEndedLine, ends.skipGap_append, endedLine,
      run_seq_of_matches (taken attempts), ends.skipGap_append,
      run_lineEnd_of_beginsOutside outside]
    rfl
  have notFinished (attempts : Attempts) :
      run size (rule .finish textEnd) false (skipGap rest ++ tail) attempts =
        (none, attempts.push finish) :=
    run_rule_of_fails (by simp [more])
  -- The line is tried twice, with its end and as the last line; the end of the text follows.
  have fails :
      runLines size (line ++ tail) attempts =
        (none, attempts.pushAll (failures ++ (failures ++ [finish]))) := by
    rw [runLines_of_fails notEnded, ends.skipGap_append, lastLine,
      run_seq_of_matches (taken _), ends.skipGap_append, notFinished,
      Attempts.pushAll_append, Attempts.pushAll_append]
    rfl
  have within : (obstacle.rest ++ tail).length ≤ (line ++ tail).length := by
    have inText := length_rest_le_of_read failed
    have inLine := length_skipGap_le line
    simp only [List.length_append]
    omega
  exact
    ⟨_, fails,
      (leads.append_of_subset (List.subset_append_left _ _)).pushAll
        (by cases obstacle.lack <;> simp [Lack.parts]) (fresh.of_le within)⟩

/-! ## The lines of a text -/

theorem readLines_cons_eq_ok
    {first : Line} {lines : List Line} {statement' : Statement}
    {readings : List (Line × Statement)}
    (read : Statement.read first.text = .ok statement')
    (readOthers : readLines lines = .ok readings) :
    readLines (first :: lines) = .ok ((first, statement') :: readings) := by
  rw [readLines_cons_of_ok read, readOthers]
  rfl

/-- What an obstacle in a line of a text comes to: the attempts fail, and the record is about it. -/
structure StuckAt
    (size offset : Nat) (text : List Char) (attempts : Attempts)
    (line : Line) (obstacle : Obstacle) (attempts' : Attempts) : Prop where
  fails : runLines size text attempts = (none, attempts')
  place :
    line.offset + (line.text.length - obstacle.rest.length) + attempts'.left =
      offset + text.length
  parts : ∀ part, part ∈ attempts'.parts ↔ part ∈ obstacle.lack.parts false

theorem exists_stuckAt_of_error
    (size offset : Nat) (isLine : IsLineText line) (ends : EndsLine tail)
    (failed : Statement.read line = .error obstacle)
    (fresh : attempts.IsFreshAt (line ++ tail).length) :
    ∃ attempts',
      StuckAt size offset (line ++ tail) attempts
        { offset, text := line } obstacle attempts' := by
  rcases exists_runLines_of_error isLine ends failed fresh with
    ⟨attempts', fails, isLeft, parts⟩
  refine ⟨attempts', fails, ?_, parts⟩
  have inText := length_rest_le_of_read failed
  have inLine := length_skipGap_le line
  simp only [isLeft, List.length_append]
  omega

theorem StuckAt.behind
    {size offset : Nat} {first ending : List Char} {line' : Line}
    {failures : List Failure}
    (stuck :
      StuckAt size (offset + (first ++ ending).length) rest
        (attempts.pushAll failures) line' obstacle attempts')
    (taken :
      tryEndedLine size (first ++ (ending ++ rest)) attempts =
        (some (trees, rest), attempts.pushAll failures)) :
    StuckAt size offset (first ++ (ending ++ rest)) attempts line' obstacle
      attempts' where
  fails := by
    rw [runLines_of_matches taken, stuck.fails]
    rfl
  place := by
    rw [stuck.place]
    simp only [List.length_append]
    omega
  parts := stuck.parts

/-- The trees of some lines in a row, by what the lines say. -/
inductive TellsLines : List (Line × Statement) → List Tree → Prop where
  | nil : TellsLines [] []
  | cons {line : Line} {statement : Statement} {readings : List (Line × Statement)}
      {trees later : List Tree}
      (told : TellsLine line.offset line.text statement trees)
      (others : TellsLines readings later) :
      TellsLines ((line, statement) :: readings) (trees ++ later)

/--
Trying the expression on the end of a text comes to what reading the lines comes to,
whatever failed in front of it.
-/
def KeepsUp (size offset : Nat) (text : List Char) (lines : List Line) : Prop :=
  offset + text.length = size → ∀ attempts, attempts.IsFreshAt text.length →
    (∃ readings trees attempts', readLines lines = .ok readings ∧
        TellsLines readings trees ∧
          runLines size text attempts =
            (some (trees ++ [finishTree size], []), attempts')) ∨
      ∃ line obstacle attempts', readLines lines = .error (line, obstacle) ∧
        StuckAt size offset text attempts line obstacle attempts'

theorem keepsUp_cut (size offset : Nat) (text : List Char) :
    KeepsUp size offset text (Line.cut offset text) := by
  apply Line.cut_induction (motive := KeepsUp size)
  · intro offset text isLine isSize attempts fresh
    cases read : Statement.read text with
    | ok statement' =>
        rcases exists_runLines_of_ok isSize isLine read attempts with
          ⟨trees, attempts', told, taken⟩
        refine
          Or.inl
            ⟨_, trees ++ [], attempts', readLines_cons_of_ok read [], .cons told .nil, ?_⟩
        rw [List.append_nil]
        exact taken
    | error obstacle =>
        rw [← List.append_nil text] at fresh
        rcases exists_stuckAt_of_error size offset isLine endsLine_nil read fresh with
          ⟨attempts', stuck⟩
        rw [List.append_nil] at stuck
        exact Or.inr ⟨_, obstacle, attempts', readLines_cons_of_error read [], stuck⟩
  · intro offset first ending rest isLine ended induction isSize attempts fresh
    have ends := endsLine_append_of_ending ended
    cases read : Statement.read first with
    | error obstacle =>
        rcases exists_stuckAt_of_error size offset isLine ends read fresh with
          ⟨attempts', stuck⟩
        exact Or.inr ⟨_, obstacle, attempts', readLines_cons_of_error read _, stuck⟩
    | ok statement' =>
        rcases exists_tryEndedLine_of_ok isSize isLine ended read with
          ⟨trees, failures, told, notBehind, taken⟩
        have behindLine : (ending ++ rest).length ≤ attempts.left :=
          Nat.le_trans (by simp) fresh.1
        have freshBehind : (attempts.pushAll failures).IsFreshAt rest.length :=
          Attempts.isFreshAt_of_lt
            (ended.length_lt.trans_le
              (Attempts.le_left_pushAll behindLine notBehind))
        have isSizeBehind :
            offset + (first ++ ending).length + rest.length = size := by
          simp only [List.length_append] at isSize ⊢
          omega
        rcases induction isSizeBehind _ freshBehind with
          ⟨readings, later, attempts', readOthers, toldOthers, passed⟩ |
            ⟨line, obstacle, attempts', failed, stuck⟩
        · refine
            Or.inl
              ⟨_, trees ++ later, attempts', readLines_cons_eq_ok read readOthers,
                .cons told toldOthers, ?_⟩
          rw [runLines_of_matches (taken attempts), passed, behind, List.append_assoc]
        · refine
            Or.inr ⟨line, obstacle, attempts', ?_, stuck.behind (taken attempts)⟩
          rw [readLines_cons_of_ok read, failed]
          rfl

/-! ## Descriptions -/

theorem expected_eq
    {lack : Lack}
    (parts : ∀ part, part ∈ attempts.parts ↔ part ∈ lack.parts false) :
    attempts.expected = lack.parts false := by
  rw [Attempts.expected]
  simp only [parts]
  cases lack <;> decide

/-- The tree of a description, with the trees of its lines and of the end of the text in it. -/
def descriptionTree (source : List Char) (trees : List Tree) : Tree where
  part := .description
  offset := 0
  text := source
  inner := trees ++ [finishTree source.length]

/-- Of a text in which every line makes a statement the expression finds the tree. -/
theorem exists_run_description_of_ok
    {source : List Char} {readings : List (Line × Statement)}
    (read : readLines (Line.cut 0 source) = .ok readings) :
    ∃ trees attempts, TellsLines readings trees ∧
      run source.length description false source (.initial source) =
        (some ([descriptionTree source trees], []), attempts) := by
  rcases keepsUp_cut source.length 0 source (Nat.zero_add _) (.initial source)
      (Attempts.isFreshAt_initial source) with
    ⟨readings', trees, attempts, read', told, passed⟩ |
      ⟨line, obstacle, attempts, failed, -⟩
  · rw [read] at read'
    cases read'
    refine ⟨trees, attempts, told, ?_⟩
    rw [run_description, passed]
    simp [tracked, Tree.found, descriptionTree]
  · rw [read] at failed
    cases failed

theorem ofObstacle_eq_ofAttempts
    {source : List Char} {line : Line}
    (place :
      line.offset + (line.text.length - obstacle.rest.length) + attempts.left =
        source.length)
    (isExpected :
      attempts.expected = obstacle.lack.parts (attempts.left == source.length)) :
    Report.ofObstacle source line obstacle = .ofAttempts source attempts := by
  have offset :
      line.offset + (line.text.length - obstacle.rest.length) =
        source.length - attempts.left := by
    omega
  have atStart :
      (source.length - attempts.left == 0) =
        (attempts.left == source.length) := by
    rw [Bool.eq_iff_iff, beq_iff_eq, beq_iff_eq]
    omega
  rw [Report.ofObstacle, Report.ofAttempts, isExpected, ← atStart, offset]

/-- The record of the expression and the obstacle of the reader of lines make one report. -/
theorem exists_run_description_of_error
    {source : List Char} {line : Line}
    (read : readLines (Line.cut 0 source) = .error (line, obstacle)) :
    ∃ attempts,
      run source.length description false source (.initial source) =
          (none, attempts) ∧
        line.offset + (line.text.length - obstacle.rest.length) +
            attempts.left = source.length ∧
          Report.ofObstacle source line obstacle =
            .ofAttempts source attempts := by
  rcases keepsUp_cut source.length 0 source (Nat.zero_add _) (.initial source)
      (Attempts.isFreshAt_initial source) with
    ⟨_, _, _, passed, -⟩ | ⟨line', obstacle', attempts, failed, stuck⟩
  · rw [read] at passed
    cases passed
  rw [read] at failed
  cases failed
  have place := stuck.place
  rw [Nat.zero_add] at place
  by_cases atStart : attempts.left = source.length
  · -- Nothing was read at all, so the description fails as a whole.
    rcases readLines_eq_error_iff.mp read with ⟨before, after, -, -, readLine⟩
    have within := length_rest_le_of_read readLine
    have inLine := length_skipGap_le line.text
    have isWhole := lack_of_length_rest_eq readLine (by omega)
    have replaced :
        (Attempts.initial source).track .description source.length attempts =
          { left := source.length, parts := [.description] } := by
      have failed :
          .finish ∈ attempts.parts ∧ .header .start ∈ attempts.parts := by
        rcases isWhole with is | is <;>
          simp [stuck.parts, is, Lack.parts, Keyword.all]
      exact
        Attempts.track_initial_of_two failed.1 failed.2 (by simp) atStart
    rw [atStart] at place
    refine
      ⟨_, by rw [run_description, stuck.fails, tracked, replaced], place,
        ofObstacle_eq_ofAttempts place ?_⟩
    rcases isWhole with is | is <;> rw [is, beq_self_eq_true] <;> rfl
  · have kept :
        (Attempts.initial source).track .description source.length attempts =
          attempts :=
      Attempts.track_of_lt (by omega)
    refine
      ⟨attempts, by rw [run_description, stuck.fails, tracked, kept], place,
        ofObstacle_eq_ofAttempts place ?_⟩
    rw [expected_eq stuck.parts, beq_false_of_ne atStart]

end Expression

/-! ## Unmatched lines -/

/--
A line that is neither empty nor a comment, and that is not matched to its end by
the first of the headers and the transition that matches its beginning.
-/
def IsUnmatched (line : List Char) : Prop :=
  let core := trimGaps line
  core ≠ [] ∧ core.head? ≠ some '#' ∧
    ∀ trees,
      (Expression.statement.run core.length false core (.initial core)).1 ≠
        some (trees, [])

theorem trimGaps_trimGaps (line : List Char) :
    trimGaps (trimGaps line) = trimGaps line := by
  rcases trimGaps_eq_iff.mp (rfl : trimGaps line = _) with
    ⟨-, -, -, -, -, outside, outsideEnd⟩
  exact
    trimGaps_eq_iff.mpr
      ⟨[], [], by simp, by simp, by simp, outside, outsideEnd⟩

/-- Of a text that ends in no gap only the empty rest is all gap. -/
theorem skipGap_eq_nil_iff_eq_nil
    {front rest : List Char}
    (outside : BeginsOutside isGap (front ++ rest).reverse) :
    skipGap rest = [] ↔ rest = [] := by
  constructor
  · intro onlyGap
    rw [List.reverse_append] at outside
    cases reversed : rest.reverse with
    | nil => exact List.reverse_eq_nil_iff.mp reversed
    | cons c others =>
        rw [reversed, List.cons_append, beginsOutside_cons] at outside
        have member : c ∈ rest := by
          rw [← List.mem_reverse, reversed]
          exact List.mem_cons_self
        rw [skipGap_eq_nil_iff.mp onlyGap c member] at outside
        cases outside
  · rintro rfl
    rfl

theorem isMalformed_trimGaps_iff
    {line : List Char} :
    IsMalformed (trimGaps line) ↔ IsMalformed line := by
  simp only [IsMalformed, LineMakes, trimGaps_trimGaps]

theorem isUnmatched_iff
    {line : List Char} (isLine : IsLineText line) :
    IsUnmatched line ↔ IsMalformed line := by
  have trims := trimGaps_eq_iff.mp (rfl : trimGaps line = _)
  have isCore : IsLineText (trimGaps line) :=
    fun c member => isLine c (trims.subset member)
  rcases trims with ⟨-, -, -, -, -, outside, outsideEnd⟩
  rw [← isMalformed_trimGaps_iff, isMalformed_iff_read, IsUnmatched]
  simp only [read_eq_error_iff, exists_and_left]
  rw [show skipGap (trimGaps line) = _ from dropWhile_of_beginsOutside outside]
  refine and_congr_right fun nonempty => and_congr_right fun noHash => ?_
  cases read : readFront (trimGaps line) with
  | error obstacle =>
      rcases Expression.exists_run_statement_of_error (trimGaps line).length isCore
          endsLine_nil read with
        ⟨failures, -, fails⟩
      rw [List.append_nil] at fails
      simp [fails]
  | ok found =>
      rcases found with ⟨statement, rest⟩
      rcases Expression.exists_run_statement_of_ok (trimGaps line).length isCore
          endsLine_nil read with
        ⟨trees, failures, -, -, taken⟩
      rcases exists_front_of_readFront read with ⟨front, -, composed, -⟩
      rw [composed] at outsideEnd
      simp only [List.append_nil] at taken
      simp [taken, skipGap_eq_nil_iff_eq_nil outsideEnd]

theorem isUnmatched_iff_of_mem_cut
    {offset : Nat} {source : List Char} {line : Line}
    (member : line ∈ Line.cut offset source) :
    IsUnmatched line.text ↔ IsMalformed line.text :=
  isUnmatched_iff ((splits_cut offset source).isLineText (List.mem_map_of_mem member))

/-! ## The place of an obstacle -/

section Obstacles

variable
    {source : List Char}
    {line : Line}
    {obstacle : Obstacle}

/-- An obstacle does not lie in the gap that a line begins with. -/
theorem length_gap_le_of_read
    (read : Statement.read line.text = .error obstacle) :
    (line.text.takeWhile isGap).length ≤
      line.text.length - obstacle.rest.length := by
  have inLine := length_rest_le_of_read read
  have gap := congrArg List.length
    (List.takeWhile_append_dropWhile (p := isGap) (l := line.text))
  rw [List.length_append] at gap
  change _ + (skipGap line.text).length = _ at gap
  omega

/-- The report on an obstacle points into its line, by as many columns as were read of it. -/
theorem place_ofObstacle
    (member : line ∈ Line.cut 0 source) (obstacle : Obstacle) :
    (Report.ofObstacle source line obstacle).place =
      { Place.ofOffset source line.offset with
        column :=
          (Place.ofOffset source line.offset).column +
            (line.text.length - obstacle.rest.length) } :=
  Line.ofOffset_add member (Nat.sub_le _ _)

/-- Where lines end with line feeds alone, the lines above are counted. -/
theorem place_ofObstacle_of_cut
    {before after : List Line} (noReturn : '\r' ∉ source)
    (isCut : Line.cut 0 source = before ++ line :: after) (obstacle : Obstacle) :
    (Report.ofObstacle source line obstacle).place =
      { line := before.length + 1
        column := line.text.length - obstacle.rest.length + 1 } := by
  have member : line ∈ Line.cut 0 source := by
    rw [isCut]
    exact List.mem_append_right _ List.mem_cons_self
  rcases Line.ofOffset_of_cut noReturn isCut with ⟨start, isOffset, begins⟩
  rw [Nat.zero_add] at isOffset
  rw [place_ofObstacle member, isOffset, begins, Nat.add_comm 1]

end Obstacles

end TapeMachine.Format

namespace TapeMachine.Description

open Format

/--
Of a text with a line that makes no statement the report is about the first such
line: it is the report on the failures furthest on of the expression of a
description, and these lie in the line, not before its first character that is no
gap and not behind its end.  So do the line and the column that are reported, which
are those of the place in the line; where lines end with line feeds alone, the line
that is reported is the number of the line.
-/
theorem report_points_into_first_unmatched_line
    (text : String)
    (within : text.utf8ByteSize ≤ 65536)
    (unmatched :
      ∃ line ∈ Line.cut 0 (Text.trim text.toList), IsUnmatched line.text) :
    ∃ report attempts position before line after,
      parse text = .error (.report report) ∧ report.IsSyntax ∧
      Expression.description.run (Text.trim text.toList).length false
          (Text.trim text.toList) (.initial (Text.trim text.toList)) =
        (none, attempts) ∧
      report = .ofAttempts (Text.trim text.toList) attempts ∧
      position + attempts.left = (Text.trim text.toList).length ∧
      report.place = .ofOffset (Text.trim text.toList) position ∧
      Line.cut 0 (Text.trim text.toList) = before ++ line :: after ∧
      (∀ earlier ∈ before, ¬ IsUnmatched earlier.text) ∧ IsUnmatched line.text ∧
      line.offset + (line.text.takeWhile isGap).length ≤ position ∧
      position ≤ line.offset + line.text.length ∧
      report.place.line =
        (Place.ofOffset (Text.trim text.toList) line.offset).line ∧
      report.place.column + line.offset =
        (Place.ofOffset (Text.trim text.toList) line.offset).column + position ∧
      ('\r' ∉ Text.trim text.toList →
        report.place.line = before.length + 1 ∧
        (line.text.takeWhile isGap).length + 1 ≤ report.place.column ∧
        report.place.column ≤ line.text.length + 1) := by
  rcases unmatched with ⟨line', member', unmatched⟩
  rcases exists_readLines_eq_error
      ⟨line', member', (isUnmatched_iff_of_mem_cut member').mp unmatched⟩ with
    ⟨line, obstacle, read⟩
  rcases readLines_eq_error_iff.mp read with
    ⟨before, after, composed, wellFormed, readLine⟩
  rcases Expression.exists_run_description_of_error read with
    ⟨attempts, fails, place, isReport⟩
  have inText : line ∈ Line.cut 0 (Text.trim text.toList) := by
    rw [composed]
    exact List.mem_append_right _ List.mem_cons_self
  have notBefore := length_gap_le_of_read readLine
  have placed := place_ofObstacle inText obstacle
  refine
    ⟨.ofObstacle _ line obstacle, attempts,
      line.offset + (line.text.length - obstacle.rest.length), before, line,
      after, ?_, isSyntax_ofObstacle _ line obstacle, fails, isReport, place, rfl,
      composed, ?_, ?_, by omega, by omega, ?_, ?_, fun noReturn => ?_⟩
  · rw [parse_of_within within, parseTrimmed_of_readLines_eq_error read]
  · intro earlier member
    have inTextBefore : earlier ∈ Line.cut 0 (Text.trim text.toList) := by
      rw [composed]
      exact List.mem_append_left _ member
    rw [isUnmatched_iff_of_mem_cut inTextBefore]
    exact wellFormed earlier member
  · rw [isUnmatched_iff_of_mem_cut inText, isMalformed_iff_read]
    exact ⟨obstacle, readLine⟩
  · rw [placed]
  · rw [placed, Nat.add_right_comm, ← Nat.add_assoc]
  · rw [place_ofObstacle_of_cut noReturn composed]
    exact ⟨rfl, Nat.succ_le_succ notBefore, Nat.succ_le_succ (Nat.sub_le _ _)⟩

/-- The line above leaves nothing that counts, and the one below is not looked at. -/
theorem report_points_into_second_line :
    ∃ report attempts position,
      parse "start: a\n b 0 - b 1 >\n:" = .error (.report report) ∧
      report = .ofAttempts "start: a\n b 0 - b 1 >\n:".toList attempts ∧
      position + attempts.left = 23 ∧
      report.place = .ofOffset "start: a\n b 0 - b 1 >\n:".toList position ∧
      10 ≤ position ∧ position ≤ 21 ∧ report.place.line = 2 ∧
      2 ≤ report.place.column ∧ report.place.column ≤ 13 := by
  have trimmed :
      Text.trim "start: a\n b 0 - b 1 >\n:".toList =
        "start: a\n b 0 - b 1 >\n:".toList := by
    decide +kernel
  have isCut :
      Line.cut 0 "start: a\n b 0 - b 1 >\n:".toList =
        [{ offset := 0, text := "start: a".toList },
          { offset := 9, text := " b 0 - b 1 >".toList },
          { offset := 22, text := [':'] }] := by
    decide +kernel
  have malformed :
      ¬ IsMalformed "start: a".toList ∧ IsMalformed " b 0 - b 1 >".toList := by
    decide +kernel
  have isUnmatched (line : Line)
      (member : line ∈ Line.cut 0 (Text.trim "start: a\n b 0 - b 1 >\n:".toList)) :
      IsUnmatched line.text ↔ IsMalformed line.text :=
    isUnmatched_iff_of_mem_cut member
  rw [trimmed, isCut] at isUnmatched
  have first :=
    (isUnmatched ⟨0, "start: a".toList⟩ (by simp)).not.mpr malformed.1
  have second :=
    (isUnmatched ⟨9, " b 0 - b 1 >".toList⟩ (by simp)).mpr malformed.2
  rcases report_points_into_first_unmatched_line "start: a\n b 0 - b 1 >\n:"
      (by decide +kernel)
      ⟨⟨9, " b 0 - b 1 >".toList⟩, by rw [trimmed, isCut]; simp, second⟩ with
    ⟨report, attempts, position, before, line, after, failed, -, -, isReport,
      place, isPlace, composed, passed, unmatched, notBefore, notBehind, -, -, ofLine⟩
  rw [trimmed] at isReport place isPlace composed ofLine
  rw [isCut] at composed
  have isSecond : before.length = 1 ∧ line = ⟨9, " b 0 - b 1 >".toList⟩ := by
    match before with
    | [] =>
        rw [List.nil_append, List.cons.injEq] at composed
        exact (first (composed.1 ▸ unmatched)).elim
    | [_] =>
        rw [List.cons_append, List.nil_append, List.cons.injEq, List.cons.injEq]
          at composed
        exact ⟨rfl, composed.2.1.symm⟩
    | _ :: other :: _ =>
        rw [List.cons_append, List.cons_append, List.cons.injEq, List.cons.injEq]
          at composed
        exact (passed other (by simp) (composed.2.1 ▸ second)).elim
  rcases isSecond with ⟨isOne, rfl⟩
  have gap : (" b 0 - b 1 >".toList.takeWhile isGap).length = 1 := by decide +kernel
  have length : " b 0 - b 1 >".toList.length = 12 := by decide +kernel
  have size : "start: a\n b 0 - b 1 >\n:".toList.length = 23 := by decide +kernel
  have noReturn : '\r' ∉ "start: a\n b 0 - b 1 >\n:".toList := by decide +kernel
  simp only [gap, length] at notBefore notBehind ofLine
  rw [isOne] at ofLine
  exact
    ⟨report, attempts, position, failed, isReport, place.trans size, isPlace,
      notBefore, notBehind, ofLine noReturn⟩

end TapeMachine.Description
