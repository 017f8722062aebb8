import TapeMachine.Proofs.CommandLine.ExitCode
import TapeMachine.Proofs.CommandLine.Leading
import TapeMachine.Proofs.CommandLine.Lines
import TapeMachine.Proofs.Files.Tree
import TapeMachine.Proofs.Run.Course

/-!
# Sessions with and without prompts

What a session shows does not depend on its input.  There is a text for each
snapshot, then a last text, and a verdict.  With prompts the same texts are
printed, each behind a prompt at which a line of input is taken, and the only
other way to end is a line that is no text.

Which line is taken at which prompt is counted from the line behind that of the
word, if the word is a line of the input.  Lines after the end are empty and end
nothing; the text that reports the step limit comes without a prompt.
-/

namespace TapeMachine.CommandLine

namespace Session

/-! ## What a session shows -/

/-- A session shows a text for each snapshot, and a last text, and ends with a verdict. -/
inductive Shows : Session → List String → String → Verdict → Prop where
  /-- The session ends instead of showing another snapshot. -/
  | ends {session : Session} {closing : String} {verdict : Verdict}
      (turned : session.turn = .ending closing verdict) :
      Shows session [] closing verdict
  /-- The session ends with a snapshot. -/
  | halts {session : Session} {text closing : String} {verdict : Verdict}
      (turned : session.turn = .snapshot (text ++ closing) (.error verdict)) :
      Shows session [text] closing verdict
  /-- The session goes on after a snapshot. -/
  | goesOn {session next : Session} {text closing : String} {texts : List String}
      {verdict : Verdict}
      (turned : session.turn = .snapshot text (.ok next))
      (shows : Shows next texts closing verdict) :
      Shows session (text :: texts) closing verdict

section Shows

variable
    {session : Session}
    {text closing : String}
    {texts : List String}
    {verdict : Verdict}
    {next : Except Verdict Session}
    {fuel : Nat}
    {input : List UInt8}

/-- Without prompts all that a session shows is printed. -/
theorem Shows.perform_auto
    (shows : Shows session texts closing verdict)
    (enough : texts.length < fuel)
    (input : List UInt8) (output : String) :
    perform true fuel session input output =
      .ended (output ++ (String.join texts ++ closing)) verdict := by
  induction shows generalizing fuel output with
  | ends turned =>
      obtain ⟨fuel, rfl⟩ := Nat.exists_eq_succ_of_ne_zero (Nat.ne_zero_of_lt enough)
      simp [perform, turned]
  | halts turned =>
      obtain ⟨fuel, rfl⟩ := Nat.exists_eq_succ_of_ne_zero (Nat.ne_zero_of_lt enough)
      rw [perform_of_snapshot_error turned]
      simp
  | goesOn turned _ induction =>
      obtain ⟨fuel, rfl⟩ := Nat.exists_eq_succ_of_ne_zero (Nat.ne_zero_of_lt enough)
      rw [perform_of_snapshot_ok turned, induction (Nat.lt_of_succ_lt_succ enough)]
      simp [String.append_assoc]

theorem perform_prompted_of_isText
    (turned : session.turn = .snapshot text next)
    (isText : IsText (lineAt input 0)) (output : String) :
    perform false (fuel + 1) session input output =
      match next with
      | .error verdict => .ended (output ++ prompt ++ text) verdict
      | .ok session =>
          perform false fuel session (takeLine input).2 (output ++ prompt ++ text) := by
  rcases readLine_of_isText isText with ⟨line, read⟩
  simp only [perform, turned, pace, read, Except.map, Bool.false_eq_true, if_false]
  cases next <;> rfl

theorem perform_prompted_of_not_isText
    (turned : session.turn = .snapshot text next)
    (noText : ¬ IsText (lineAt input 0)) (output : String) :
    perform false (fuel + 1) session input output =
      .failure (output ++ prompt) (.unreadable (.paceLine .notText)) := by
  simp only [perform, turned, pace, readLine_of_not_isText noText, Except.map,
    Bool.false_eq_true, if_false]

/-- With prompts all that a session shows is printed, each snapshot behind a prompt. -/
theorem Shows.perform_prompted
    (shows : Shows session texts closing verdict)
    (enough : texts.length < fuel)
    (areTexts : ∀ place < texts.length, IsText (lineAt input place))
    (output : String) :
    perform false fuel session input output =
      .ended (output ++ (String.join (texts.map (prompt ++ ·)) ++ closing)) verdict := by
  induction shows generalizing fuel input output with
  | ends turned =>
      obtain ⟨fuel, rfl⟩ := Nat.exists_eq_succ_of_ne_zero (Nat.ne_zero_of_lt enough)
      simp [perform, turned]
  | halts turned =>
      obtain ⟨fuel, rfl⟩ := Nat.exists_eq_succ_of_ne_zero (Nat.ne_zero_of_lt enough)
      rw [perform_prompted_of_isText turned (areTexts 0 (Nat.succ_pos _))]
      simp [String.append_assoc]
  | goesOn turned _ induction =>
      obtain ⟨fuel, rfl⟩ := Nat.exists_eq_succ_of_ne_zero (Nat.ne_zero_of_lt enough)
      rw [perform_prompted_of_isText turned (areTexts 0 (Nat.succ_pos _))]
      dsimp only
      rw [induction (Nat.lt_of_succ_lt_succ enough)]
      · simp [String.append_assoc]
      · intro place inside
        rw [lineAt_takeLine]
        exact areTexts (place + 1) (Nat.succ_lt_succ inside)

/-- The first line that is no text ends a session right behind its prompt. -/
theorem Shows.perform_prompted_of_not_isText
    (shows : Shows session texts closing verdict)
    (enough : texts.length < fuel)
    {place : Nat}
    (inside : place < texts.length)
    (before : ∀ earlier < place, IsText (lineAt input earlier))
    (noText : ¬ IsText (lineAt input place))
    (output : String) :
    perform false fuel session input output =
      .failure
        (output ++ (String.join ((texts.take place).map (prompt ++ ·)) ++ prompt))
        (.unreadable (.paceLine .notText)) := by
  induction shows generalizing fuel input output place with
  | ends turned => cases inside
  | halts turned =>
      obtain ⟨fuel, rfl⟩ := Nat.exists_eq_succ_of_ne_zero (Nat.ne_zero_of_lt enough)
      obtain rfl : place = 0 := Nat.lt_one_iff.mp inside
      rw [perform_prompted_of_not_isText turned noText]
      simp
  | goesOn turned _ induction =>
      obtain ⟨fuel, rfl⟩ := Nat.exists_eq_succ_of_ne_zero (Nat.ne_zero_of_lt enough)
      cases place with
      | zero =>
          rw [perform_prompted_of_not_isText turned noText]
          simp
      | succ place =>
          rw [perform_prompted_of_isText turned (before 0 (Nat.succ_pos _))]
          dsimp only
          rw [← lineAt_takeLine] at noText
          rw [induction (Nat.lt_of_succ_lt_succ enough) (Nat.lt_of_succ_lt_succ inside) _ noText]
          · simp [String.append_assoc]
          · intro earlier isEarlier
            rw [lineAt_takeLine]
            exact before (earlier + 1) (Nat.succ_lt_succ isEarlier)

end Shows

/-! ## What the session of a run shows -/

/-- The texts of the configurations of a run, the first of which are `count` many. -/
def snapshotTexts (machine : Machine) (word : String) (count : Nat) : List String :=
  (List.range count).map fun place =>
    snapshotText (machine.course word place) machine.shownBlank

@[simp]
theorem length_snapshotTexts (machine : Machine) (word : String) (count : Nat) :
    (snapshotTexts machine word count).length = count := by
  simp [snapshotTexts]

theorem take_snapshotTexts
    (machine : Machine) (word : String) {place count : Nat} (within : place ≤ count) :
    (snapshotTexts machine word count).take place = snapshotTexts machine word place := by
  rw [snapshotTexts, ← List.map_take, List.take_range, Nat.min_eq_left within]
  rfl

theorem snapshotTexts_eq (machine : Machine) (word : String) (count : Nat) :
    snapshotTexts machine word count =
      (List.range count).map fun place => snapshots machine [machine.course word place] := by
  simp only [snapshotTexts, snapshots_singleton]

/-- The texts as they are printed with prompts. -/
theorem map_prompt_snapshotTexts (machine : Machine) (word : String) (count : Nat) :
    (snapshotTexts machine word count).map (prompt ++ ·) =
      (List.range count).map fun place =>
        "Press Enter to continue:\n" ++ snapshots machine [machine.course word place] := by
  rw [snapshotTexts_eq, List.map_map]
  rfl

/-- How a run ends that is shown up to some place. -/
def verdictAt (machine : Machine) (word : String) (place : Nat) : Verdict :=
  (verdict? machine (machine.course word place)).getD .outOfSteps

section Course

variable
    {machine : Machine}
    {word : String}
    {maxSteps place : Nat}

theorem verdictAt_of_halting
    (halts : machine.isHalting (machine.course word place).state = true) :
    verdictAt machine word place = verdictOn machine (machine.course word place) := by
  simp [verdictAt, verdict?_eq, halts]

theorem verdictAt_of_not_halting
    (goesOn : machine.isHalting (machine.course word place).state = false) :
    verdictAt machine word place = .outOfSteps := by
  simp [verdictAt, verdict?_eq, goesOn]

/-- A run that reaches the step limit and does not halt there is at the limit. -/
theorem eq_maxSteps_of_not_halting
    (isLast : (place : ℕ∞) = min (machine.lastPlace word) maxSteps)
    (goesOn : machine.isHalting (machine.course word place).state = false) :
    place = maxSteps := by
  have within : (place : ℕ∞) ≤ machine.lastPlace word := isLast ▸ min_le_left _ _
  have notLast : (place : ℕ∞) ≠ machine.lastPlace word := by
    intro isLastPlace
    rw [(Machine.isHalting_course_iff within).mpr isLastPlace] at goesOn
    cases goesOn
  rcases min_choice (machine.lastPlace word) (maxSteps : ℕ∞) with isMin | isMin
  · exact absurd (isLast.trans isMin) notLast
  · exact ENat.natCast_inj.mp (isLast.trans isMin)

/-- A session has turns enough for all that is shown. -/
theorem length_snapshotTexts_lt
    (isLast : (place : ℕ∞) = min (machine.lastPlace word) maxSteps) :
    (snapshotTexts machine word (place + 1)).length < maxSteps + 2 := by
  have within : place ≤ maxSteps :=
    ENat.natCast_le_natCast.mp (isLast ▸ min_le_right _ _)
  rw [length_snapshotTexts]
  omega

/-- The exit code and the last words are those of acceptance, of rejection or of the step limit. -/
theorem ending_cases
    (isLast : (place : ℕ∞) = min (machine.lastPlace word) maxSteps) :
    ((machine.course word place).state = machine.accept ∧
        (verdictAt machine word place).exitCode = 0 ∧
        closing (verdictAt machine word place) place =
          "\nAccepted after " ++ toString place ++ " steps.\n") ∨
      ((machine.course word place).state ≠ machine.accept ∧
        (machine.course word place).state = machine.reject ∧
        (verdictAt machine word place).exitCode = 1 ∧
        closing (verdictAt machine word place) place =
          "\nRejected after " ++ toString place ++ " steps.\n") ∨
      ((machine.course word place).state ≠ machine.accept ∧
        (machine.course word place).state ≠ machine.reject ∧
        (verdictAt machine word place).exitCode = 2 ∧
        closing (verdictAt machine word place) place =
          "\nStep limit of " ++ toString maxSteps ++ " reached.\n") := by
  by_cases accepts : (machine.course word place).state = machine.accept
  · have isVerdict : verdictAt machine word place = .accepted := by
      simp [verdictAt, verdict?, accepts]
    rw [isVerdict]
    exact Or.inl ⟨accepts, rfl, rfl⟩
  by_cases rejects : (machine.course word place).state = machine.reject
  · have isVerdict : verdictAt machine word place = .rejected := by
      rw [verdictAt, verdict?, if_neg accepts, if_pos rejects]
      rfl
    rw [isVerdict]
    exact Or.inr (Or.inl ⟨accepts, rejects, rfl, rfl⟩)
  · have goesOn : machine.isHalting (machine.course word place).state = false := by
      simp [Machine.isHalting, accepts, rejects]
    rw [verdictAt_of_not_halting goesOn]
    refine Or.inr (Or.inr ⟨accepts, rejects, rfl, ?_⟩)
    rw [eq_maxSteps_of_not_halting isLast goesOn]
    rfl

/--
From a place of the course on, a session shows the configurations up to the last
place or to the step limit, whichever comes first.
-/
theorem shows_from_place
    {run : Run}
    (isMachine : run.machine = machine)
    (notOver : run.isOver = false)
    (atPlace : run.advance.latest = machine.course word place)
    {count last : Nat}
    (reaches : place + count = last)
    (isLast : (last : ℕ∞) = min (machine.lastPlace word) maxSteps) :
    Shows { run, shown := place, maxSteps }
      ((List.range' place (count + 1)).map fun place =>
        snapshotText (machine.course word place) machine.shownBlank)
      (closing (verdictAt machine word last) last)
      (verdictAt machine word last) := by
  have within : last ≤ maxSteps :=
    ENat.natCast_le_natCast.mp (isLast ▸ min_le_right _ _)
  have goesOnBefore :=
    Machine.le_lastPlace_iff.mp (isLast ▸ min_le_left _ _ : (last : ℕ∞) ≤ _)
  induction count generalizing run place with
  | zero =>
      obtain rfl : place = last := reaches
      cases halts : machine.isHalting (machine.course word place).state with
      | true =>
          have halting : run.machine.isHalting run.advance.latest.state = true := by
            rwa [isMachine, atPlace]
          rw [verdictAt_of_halting halts]
          refine Shows.halts ?_
          rw [turn_of_halting notOver within halting, isMachine, atPlace]
      | false =>
          -- The step limit is reported instead of the next snapshot.
          have isLimit := eq_maxSteps_of_not_halting isLast halts
          have notHalting : run.machine.isHalting run.advance.latest.state = false := by
            rwa [isMachine, atPlace]
          have limitReached :
              turn { run := run.advance, shown := place + 1, maxSteps } =
                .ending (closing .outOfSteps place) .outOfSteps := by
            rw [turn_of_lt (run.isOver_advance.trans notHalting) (by omega), isLimit]
          rw [verdictAt_of_not_halting halts]
          refine Shows.goesOn ?_ (Shows.ends limitReached)
          rw [turn_of_not_halting notOver within notHalting, isMachine, atPlace]
  | succ count induction =>
      have notHalting : run.machine.isHalting run.advance.latest.state = false := by
        rw [isMachine, atPlace]
        exact goesOnBefore place (by omega)
      have atNextPlace :
          run.advance.advance.latest = machine.course word (place + 1) := by
        rw [Run.latest_advance, Run.started_advance, if_pos rfl, atPlace,
          Machine.course_succ, Run.machine_advance, isMachine]
      have shows :=
        induction (run.machine_advance.trans isMachine)
          (run.isOver_advance.trans notHalting) atNextPlace (by omega)
      refine Shows.goesOn ?_ shows
      rw [turn_of_not_halting notOver (by omega) notHalting, isMachine, atPlace]

/-- A session from its beginning shows its run, and says how it ends. -/
theorem shows_begin
    {last : Nat}
    (isLast : (last : ℕ∞) = min (machine.lastPlace word) maxSteps) :
    Shows (begin machine word maxSteps)
      (snapshotTexts machine word (last + 1))
      (closing (verdictAt machine word last) last)
      (verdictAt machine word last) := by
  rw [snapshotTexts, List.range_eq_range']
  exact shows_from_place rfl (Run.isOver_begin machine word) rfl (Nat.zero_add last) isLast

end Course

end Session

/-! ## Which lines are taken -/

/-- How many lines of the input are taken for the word. -/
def WordSource.linesTaken : WordSource → Nat
  | given _ => 0
  | file _ => 0
  | .input => 1

theorem chooseWord_eq_input_iff {asked : Arguments} {sample? : Option String} :
    chooseWord asked sample? = .input ↔
      asked.word? = none ∧ asked.input? = none ∧ sample? = none := by
  unfold chooseWord
  split <;> simp_all

section Resolve

variable
    {storage : Storage}
    {input rest : List UInt8}
    {source : WordSource}
    {word : String}

/-- The lines that are left are those behind the line of the word. -/
theorem lineAt_of_resolve
    (resolved : source.resolve storage input = .ok (word, rest))
    (place : Nat) :
    lineAt rest place = lineAt input (source.linesTaken + place) := by
  cases source with
  | given word =>
      cases resolved
      rw [WordSource.linesTaken, Nat.zero_add]
  | file path =>
      rcases map_eq_ok_iff.mp resolved with ⟨word, -, same⟩
      cases same
      rw [WordSource.linesTaken, Nat.zero_add]
  | input =>
      by_cases isText : IsText (lineAt input 0)
      · rcases readLine_of_isText isText with ⟨line, read⟩
        simp only [WordSource.resolve, read] at resolved
        cases resolved
        rw [lineAt_takeLine, WordSource.linesTaken, Nat.add_comm]
      · simp only [WordSource.resolve, readLine_of_not_isText isText] at resolved
        cases resolved

theorem runChosen_of_resolve_eq_error
    {asked : Arguments} {machine : Machine} {error : MachineError}
    (prepared : prepare storage asked = .ok (machine, source))
    (unresolved : source.resolve storage input = .error error) :
    runChosen storage input asked = .failure "" error := by
  simp only [runChosen, prepared, unresolved, bind, Except.bind]

end Resolve

/-! ## The program with and without prompts -/

/--
With prompts the program shows what it shows without them, each snapshot behind a
prompt, and ends with the same exit code, if the lines it takes are texts.  It
takes one line for each snapshot that it gets to, behind the one that it takes
for the word if nothing else gives it, and none for the report of the step limit.
A line that is no text ends it at once, and what it printed is what it would have
printed so far.  Behind the end of the input there are only empty lines.
-/
theorem execute_prompted_eq_auto
    {storage : Storage} {input : List UInt8} {arguments : List String}
    {asked : Arguments} {description : Description} {sample? : Option String}
    {machine : Machine}
    (understood : Arguments.read arguments = .ok asked)
    (notListing : asked.list = false) (prompted : asked.auto = false)
    (loaded : chooseDescription storage asked = .ok (description, sample?))
    (built : description.build = .ok machine)
    (pausable : asked.delay.ratio.1 < 2 ^ 64 * asked.delay.ratio.2) :
    Arguments.read ("--auto" :: arguments) = .ok { asked with auto := true } ∧
    (chooseWord asked sample? = .input ↔
      asked.word? = none ∧ asked.input? = none ∧ sample? = none) ∧
    (chooseWord asked sample? = .input → ¬ IsText (lineAt input 0) →
      execute storage input arguments =
        { exitCode := 1
          output := ""
          complaint :=
            "Error: File error: Failed to read from stdin: " ++
              "stream did not contain valid UTF-8\n" }) ∧
    (∀ (word : String) (rest : List UInt8),
      (chooseWord asked sample?).resolve storage input = .ok (word, rest) →
      ∃ (last exitCode : Nat) (closing : String),
        (last : ℕ∞) = min (machine.lastPlace word) asked.maxSteps ∧
        (((machine.course word last).state = machine.accept ∧ exitCode = 0 ∧
            closing = "\nAccepted after " ++ toString last ++ " steps.\n") ∨
          ((machine.course word last).state ≠ machine.accept ∧
            (machine.course word last).state = machine.reject ∧ exitCode = 1 ∧
            closing = "\nRejected after " ++ toString last ++ " steps.\n") ∨
          ((machine.course word last).state ≠ machine.accept ∧
            (machine.course word last).state ≠ machine.reject ∧ exitCode = 2 ∧
            closing =
              "\nStep limit of " ++ toString asked.maxSteps ++ " reached.\n")) ∧
        (∀ automatic : List String,
          Arguments.read automatic = .ok { asked with auto := true } →
            execute storage input automatic =
              { exitCode
                output :=
                  String.join
                      ((List.range (last + 1)).map fun place =>
                        snapshots machine [machine.course word place]) ++
                    closing
                complaint := "" }) ∧
        ((∀ place ≤ last,
            IsText (lineAt input ((chooseWord asked sample?).linesTaken + place))) →
          execute storage input arguments =
            { exitCode
              output :=
                String.join
                    ((List.range (last + 1)).map fun place =>
                      "Press Enter to continue:\n" ++
                        snapshots machine [machine.course word place]) ++
                  closing
              complaint := "" }) ∧
        (∀ place ≤ last,
          (∀ earlier < place,
            IsText (lineAt input ((chooseWord asked sample?).linesTaken + earlier))) →
          ¬ IsText (lineAt input ((chooseWord asked sample?).linesTaken + place)) →
            execute storage input arguments =
              { exitCode := 1
                output :=
                  String.join
                      ((List.range place).map fun earlier =>
                        "Press Enter to continue:\n" ++
                          snapshots machine [machine.course word earlier]) ++
                    "Press Enter to continue:\n"
                complaint :=
                  "Error: File error: stream did not contain valid UTF-8\n" })) ∧
    (∀ place, input.count 10 < place → lineAt input place = [] ∧ IsText []) := by
  refine
    ⟨Arguments.read_auto_cons understood prompted, chooseWord_eq_input_iff, ?_, ?_,
      fun place beyond => ⟨lineAt_of_count_lt beyond, isText_nil⟩⟩
  · intro fromInput noText
    have prepared : prepare storage asked = .ok (machine, .input) := by
      simp only [prepare, loaded, built, bind, Except.bind, pure, Except.pure, fromInput]
    have unresolved :
        WordSource.input.resolve storage input =
          .error (.unreadable (.wordLine .notText)) := by
      simp only [WordSource.resolve, readLine_of_not_isText noText]
    rw [execute_of_understood understood notListing,
      runChosen_of_resolve_eq_error prepared unresolved]
    rfl
  · intro word rest resolved
    have limited : min (machine.lastPlace word) (asked.maxSteps : ℕ∞) ≠ ⊤ := by
      simp
    obtain ⟨last, isLast⟩ := ENat.ne_top_iff_exists.mp limited
    have shows := Session.shows_begin isLast
    have enough := Session.length_snapshotTexts_lt isLast
    have isTranscript :=
      execute_eq_transcript understood notListing loaded built resolved pausable
    rw [prompted] at isTranscript
    have linesBehind := lineAt_of_resolve resolved
    refine ⟨last, _, _, isLast, Session.ending_cases isLast, ?_, ?_, ?_⟩
    · intro automatic automatically
      have ended := shows.perform_auto enough rest ""
      rw [String.empty_append, Session.snapshotTexts_eq] at ended
      rw [execute_eq_transcript automatically notListing loaded built resolved pausable]
      exact ended
    · intro areTexts
      have areTextsBehind :
          ∀ place < (Session.snapshotTexts machine word (last + 1)).length,
            IsText (lineAt rest place) := by
        intro place inside
        rw [Session.length_snapshotTexts] at inside
        rw [linesBehind]
        exact areTexts place (Nat.le_of_lt_succ inside)
      have ended := shows.perform_prompted enough areTextsBehind ""
      rw [String.empty_append, Session.map_prompt_snapshotTexts] at ended
      rw [isTranscript]
      exact ended
    · intro place within before noText
      have inside : place < (Session.snapshotTexts machine word (last + 1)).length := by
        rw [Session.length_snapshotTexts]
        exact Nat.lt_succ_of_le within
      simp only [← linesBehind] at before noText
      have failed := shows.perform_prompted_of_not_isText enough inside before noText ""
      rw [String.empty_append,
        Session.take_snapshotTexts machine word (Nat.le_succ_of_le within),
        Session.map_prompt_snapshotTexts] at failed
      rw [isTranscript]
      exact failed

/-- A file tree with one file, which holds the description of the palindrome machine. -/
def machineFolder : FileTree :=
  .directory [("m.tm", .file Catalogue.palindromeText.toUTF8)]

theorem readFile_machineFolder :
    machineFolder.storage.readFile "m.tm" = .ok Catalogue.palindromeText.toUTF8 := by
  apply FileTree.readFile_storage_of_find
  rw [FileTree.find_eq_ok_iff]
  exact ⟨by decide, by decide, by decide, by decide, rfl⟩

theorem loadDescription_machineFolder :
    machineFolder.storage.loadDescription "m.tm" = .ok Catalogue.palindrome := by
  have loaded := Storage.loadText_of_readFile readFile_machineFolder
  simp only [Storage.loadDescription, loaded, bind, Except.bind]
  exact Catalogue.parse_palindromeText

theorem lastPlace_palindromeMachine_a :
    Catalogue.palindromeMachine.lastPlace "a" = (3 : Nat) := by
  have within : ((3 : Nat) : ℕ∞) ≤ Catalogue.palindromeMachine.lastPlace "a" := by
    rw [Machine.le_lastPlace_iff]
    decide
  exact ((Machine.isHalting_course_iff within).mp (by decide)).symm

/--
The first line of the input is the word `a`.  If nothing follows, the run goes on
to its end; if a line that is no text follows an empty one, the program fails at
its second prompt.
-/
theorem execute_prompted_eq_auto_word_line :
    execute machineFolder.storage [97, 10] ["-m", "m.tm"] =
        { exitCode := 0
          output :=
            String.join
                ((List.range 4).map fun place =>
                  "Press Enter to continue:\n" ++
                    snapshots Catalogue.palindromeMachine
                      [Catalogue.palindromeMachine.course "a" place]) ++
              "\nAccepted after 3 steps.\n"
          complaint := "" } ∧
      execute machineFolder.storage [97, 10, 10, 255] ["-m", "m.tm"] =
        { exitCode := 1
          output :=
            String.join
                ((List.range 1).map fun place =>
                  "Press Enter to continue:\n" ++
                    snapshots Catalogue.palindromeMachine
                      [Catalogue.palindromeMachine.course "a" place]) ++
              "Press Enter to continue:\n"
          complaint := "Error: File error: stream did not contain valid UTF-8\n" } := by
  have understood :
      Arguments.read ["-m", "m.tm"] = .ok { machine? := some "m.tm" } :=
    rfl
  have loaded :
      chooseDescription machineFolder.storage { machine? := some "m.tm" } =
        .ok (Catalogue.palindrome, none) := by
    simp only [chooseDescription, loadDescription_machineFolder]
    rfl
  have pausable :
      Arguments.defaultDelay.ratio.1 <
        2 ^ 64 * Arguments.defaultDelay.ratio.2 := by
    decide
  have isLimit :
      min (Catalogue.palindromeMachine.lastPlace "a") (Arguments.defaultMaxSteps : ℕ∞) =
        (3 : Nat) := by
    rw [lastPlace_palindromeMachine_a]
    decide
  have resolved (rest : List UInt8) :
      WordSource.input.resolve machineFolder.storage (97 :: 10 :: rest) =
        .ok ("a", rest) := by
    have read : readLine (97 :: 10 :: rest) = .ok ("a\n", rest) :=
      readLine_textBytes_append (by decide : '\n' ∉ ['a']) rest
    simp only [WordSource.resolve, read]
    rfl
  constructor
  · rcases (@execute_prompted_eq_auto machineFolder.storage [97, 10] _ _ _ _ _ understood
      rfl rfl loaded Catalogue.build_palindrome pausable).2.2.2.1 "a" [] (resolved []) with
      ⟨last, exitCode, closing, isLast, ends, -, ended, -⟩
    obtain rfl : last = 3 := ENat.natCast_inj.mp (isLast.trans isLimit)
    have accepts :
        (Catalogue.palindromeMachine.course "a" 3).state =
          Catalogue.palindromeMachine.accept :=
      rfl
    simp only [accepts, ne_eq, not_true_eq_false, false_and, or_false, true_and] at ends
    rcases ends with ⟨rfl, rfl⟩
    refine ended fun place _ => ?_
    have empty : lineAt [97, 10] (1 + place) = [] := by
      have noFeed : (10 : UInt8) ∉ [97] := by decide
      have behind := lineAt_append_succ noFeed [] place
      rw [lineAt_nil] at behind
      rw [Nat.add_comm]
      exact behind
    exact cast (congrArg IsText empty.symm) isText_nil
  · rcases (@execute_prompted_eq_auto machineFolder.storage [97, 10, 10, 255] _ _ _ _ _
      understood rfl rfl loaded Catalogue.build_palindrome pausable).2.2.2.1 "a" [10, 255]
      (resolved [10, 255]) with ⟨last, -, -, isLast, -, -, -, failed⟩
    obtain rfl : last = 3 := ENat.natCast_inj.mp (isLast.trans isLimit)
    refine failed 1 (by decide) ?_ ?_
    · intro earlier isFirst
      obtain rfl : earlier = 0 := Nat.lt_one_iff.mp isFirst
      exact isText_nil
    · have noText : ¬ IsText [255] := by
        unfold IsText
        decide +kernel
      exact noText

end TapeMachine.CommandLine
