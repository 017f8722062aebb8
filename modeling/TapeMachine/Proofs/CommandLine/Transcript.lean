import Mathlib.Logic.Relation
import TapeMachine.CommandLine.Execution
import TapeMachine.Files.Tree
import TapeMachine.Proofs.Catalogue.Palindrome
import TapeMachine.Proofs.Run.Calls
import TapeMachine.Proofs.Tape.Rendering

/-!
# The transcript of a run

A session is performed turn by turn, with a budget of turns that exceeds its
step limit by two.  What is printed in the end can be said without sessions: a
snapshot of each configuration of the run, up to the first in a halting state or
up to the one after as many steps as are allowed, and then one closing line.

The two ways to end are followed separately, each by an induction over what is
left of the run.  Neither of them uses up the budget of turns, and no session on
the way finds its run already over.
-/

namespace TapeMachine

theorem Run.isOver_eq_false_of_nth
    {run : Run} {index : Nat} {configuration : Configuration}
    (yielded : (run.nth index).1 = some configuration) :
    run.isOver = false := by
  by_contra finished
  rw [nth_of_isOver (Bool.of_not_eq_false finished)] at yielded
  cases yielded

/-! ## Cells with spaces between them -/

namespace Tape

/-- The cells of the content, the one under the head in brackets, with one space between two. -/
def spaced (tape : Tape) (shownBlank : Symbol) : List Char :=
  (tape.content.take tape.headOffset).flatMap
      (fun symbol => [symbol.present shownBlank, ' ']) ++
    '[' :: tape.read.present shownBlank :: ']' ::
      (tape.content.drop (tape.headOffset + 1)).flatMap
        (fun symbol => [' ', symbol.present shownBlank])

theorem intercalate_append_cons
    {Item : Type} (separator middle : List Item)
    (before after : List (List Item)) :
    separator.intercalate (before ++ middle :: after) =
      before.flatMap (· ++ separator) ++ middle ++
        after.flatMap (separator ++ ·) := by
  induction before with
  | nil =>
      induction after generalizing middle with
      | nil => simp
      | cons next after induction =>
          simpa using induction next
  | cons first before induction =>
      cases before with
      | nil => simp_all
      | cons second before => simp_all

theorem intercalate_cellTexts (tape : Tape) (shownBlank : Symbol) :
    [' '].intercalate (tape.cellTexts shownBlank) =
      tape.spaced shownBlank := by
  rw [cellTexts_of_content_eq shownBlank tape.content_eq_append
    tape.length_take_headOffset, intercalate_append_cons]
  simp only [spaced, List.flatMap_map, List.append_assoc, List.cons_append,
    List.nil_append]

end Tape

namespace CommandLine

/-- What is printed for some configurations: for each its state, and its cells with spaces. -/
def snapshots (machine : Machine) (configurations : List Configuration) :
    String :=
  String.join
    (configurations.map fun configuration =>
      "State: " ++ configuration.state ++ "\n" ++
        String.ofList (configuration.tape.spaced machine.shownBlank) ++ "\n")

@[simp]
theorem snapshots_nil (machine : Machine) : snapshots machine [] = "" :=
  rfl

theorem snapshots_cons
    (machine : Machine)
    (configuration : Configuration) (more : List Configuration) :
    snapshots machine (configuration :: more) =
      Session.snapshotText configuration machine.shownBlank ++
        snapshots machine more := by
  simp [snapshots, Session.snapshotText, Tape.intercalate_cellTexts]

theorem snapshots_singleton
    (machine : Machine) (configuration : Configuration) :
    snapshots machine [configuration] =
      Session.snapshotText configuration machine.shownBlank := by
  rw [snapshots_cons, snapshots_nil, String.append_empty]

/-- How a run ends with a configuration in a halting state. -/
def verdictOn (machine : Machine) (final : Configuration) : Verdict :=
  if final.state = machine.accept then .accepted else .rejected

theorem verdict?_eq
    (machine : Machine) (configuration : Configuration) :
    Session.verdict? machine configuration =
      if machine.isHalting configuration.state then
        some (verdictOn machine configuration)
      else none := by
  by_cases accepts : configuration.state = machine.accept
  · simp [Session.verdict?, verdictOn, Machine.isHalting, accepts]
  · by_cases rejects : configuration.state = machine.reject
    · have notBoth : machine.reject ≠ machine.accept := rejects ▸ accepts
      simp [Session.verdict?, verdictOn, Machine.isHalting, rejects, notBoth]
    · simp [Session.verdict?, Machine.isHalting, accepts, rejects]

namespace Session

/-! ## Turns -/

variable
    {run : Run}
    {shown maxSteps : Nat}

theorem turn_of_lt
    (notOver : run.isOver = false) (exhausted : maxSteps < shown) :
    turn { run, shown, maxSteps } =
      .ending (closing .outOfSteps maxSteps) .outOfSteps := by
  simp [turn, notOver, exhausted]

theorem turn_of_halting
    (notOver : run.isOver = false) (within : shown ≤ maxSteps)
    (halts : run.machine.isHalting run.advance.latest.state = true) :
    turn { run, shown, maxSteps } =
      .snapshot
        (snapshotText run.advance.latest run.machine.shownBlank ++
          closing (verdictOn run.machine run.advance.latest) shown)
        (.error (verdictOn run.machine run.advance.latest)) := by
  simp [turn, notOver, Nat.not_lt.mpr within, verdict?_eq, halts]

theorem turn_of_not_halting
    (notOver : run.isOver = false) (within : shown ≤ maxSteps)
    (goesOn : run.machine.isHalting run.advance.latest.state = false) :
    turn { run, shown, maxSteps } =
      .snapshot (snapshotText run.advance.latest run.machine.shownBlank)
        (.ok { run := run.advance, shown := shown + 1, maxSteps }) := by
  simp [turn, notOver, Nat.not_lt.mpr within, verdict?_eq, goesOn]

/-- Everything a turn can be while the run is not over. -/
theorem turn_cases (notOver : run.isOver = false) :
    turn { run, shown, maxSteps } =
        .ending (closing .outOfSteps maxSteps) .outOfSteps ∨
      turn { run, shown, maxSteps } =
        .snapshot
          (snapshotText run.advance.latest run.machine.shownBlank ++
            closing (verdictOn run.machine run.advance.latest) shown)
          (.error (verdictOn run.machine run.advance.latest)) ∨
      run.advance.isOver = false ∧
        turn { run, shown, maxSteps } =
          .snapshot (snapshotText run.advance.latest run.machine.shownBlank)
            (.ok { run := run.advance, shown := shown + 1, maxSteps }) := by
  rcases Nat.lt_or_ge maxSteps shown with exhausted | within
  · exact Or.inl (turn_of_lt notOver exhausted)
  · cases halts : run.machine.isHalting run.advance.latest.state with
    | true => exact Or.inr (Or.inl (turn_of_halting notOver within halts))
    | false =>
        exact
          Or.inr (Or.inr
            ⟨run.isOver_advance.trans halts,
              turn_of_not_halting notOver within halts⟩)

/-- A session is followed by another when a turn of it leads there. -/
def Leads (session next : Session) : Prop :=
  ∃ text : String, session.turn = .snapshot text (.ok next)

theorem Leads.isOver_eq_false
    {session next : Session}
    (leads : session.Leads next) :
    next.run.isOver = false := by
  rcases session with ⟨run, shown, maxSteps⟩
  rcases leads with ⟨text, turned⟩
  cases finished : run.isOver with
  | true => simp [turn, finished] at turned
  | false =>
      rcases turn_cases finished with isTurn | isTurn | ⟨goesOn, isTurn⟩
      · rw [isTurn] at turned
        cases turned
      · rw [isTurn] at turned
        cases turned
      · rw [isTurn] at turned
        cases turned
        exact goesOn

theorem turn_ne_ending_of_isOver_eq_false
    {session : Session}
    (notOver : session.run.isOver = false) :
    session.turn ≠ .ending "" .rejected := by
  rcases session with ⟨run, shown, maxSteps⟩
  rcases turn_cases notOver with isTurn | isTurn | ⟨-, isTurn⟩
  · rw [isTurn]
    simp
  · rw [isTurn]
    simp
  · rw [isTurn]
    simp

theorem perform_of_snapshot_error
    {session : Session} {text : String} {verdict : Verdict}
    (turned : session.turn = .snapshot text (.error verdict))
    (fuel : Nat) (input : List UInt8) (output : String) :
    perform true (fuel + 1) session input output =
      .ended (output ++ text) verdict := by
  simp only [perform, turned, pace, if_true, String.append_empty]

theorem perform_of_snapshot_ok
    {session next : Session} {text : String}
    (turned : session.turn = .snapshot text (.ok next))
    (fuel : Nat) (input : List UInt8) (output : String) :
    perform true (fuel + 1) session input output =
      perform true fuel next input (output ++ text) := by
  simp only [perform, turned, pace, if_true, String.append_empty]

/-! ## Whole sessions -/

/-- A run that halts within the limit is shown up to the configuration it halts with. -/
theorem perform_of_halting
    {count fuel : Nat} {final : Configuration}
    (yielded : (run.nth count).1 = some final)
    (halts : run.machine.isHalting final.state = true)
    (within : shown + count ≤ maxSteps)
    (input : List UInt8) (output : String) :
    perform true (fuel + count + 1) { run, shown, maxSteps } input output =
      .ended
        (output ++ snapshots run.machine (run.take (count + 1)).1 ++
          closing (verdictOn run.machine final) (shown + count))
        (verdictOn run.machine final) := by
  have notOver := Run.isOver_eq_false_of_nth yielded
  induction count generalizing run shown output with
  | zero =>
      have atTurn : shown ≤ maxSteps := within
      simp only [Run.nth_zero, notOver, Bool.false_eq_true, if_false,
        Option.some.injEq] at yielded
      subst yielded
      rw [perform_of_snapshot_error (turn_of_halting notOver atTurn halts)]
      simp [Run.take, notOver, snapshots_cons, String.append_assoc]
  | succ count induction =>
      simp only [Run.nth_succ_eq_nth_advance, notOver, Bool.false_eq_true,
        if_false] at yielded
      have notOverNext := Run.isOver_eq_false_of_nth yielded
      have goesOn := run.isOver_advance.symm.trans notOverNext
      rw [← Nat.add_assoc,
        perform_of_snapshot_ok (turn_of_not_halting notOver (by omega) goesOn),
        induction yielded halts (by omega) _ notOverNext]
      simp [Run.take, notOver, snapshots_cons, String.append_assoc,
        Nat.add_right_comm, Nat.add_assoc]

/-- A run that does not halt within the limit is shown up to the limit. -/
theorem perform_of_not_halting
    {count fuel : Nat}
    (notOver : run.isOver = false)
    (goesOn : ∀ place < count, ∀ configuration,
      (run.nth place).1 = some configuration →
        run.machine.isHalting configuration.state = false)
    (exhausted : shown + count = maxSteps + 1)
    (input : List UInt8) (output : String) :
    perform true (fuel + count + 1) { run, shown, maxSteps } input output =
      .ended
        (output ++ snapshots run.machine (run.take count).1 ++
          closing .outOfSteps maxSteps)
        .outOfSteps := by
  induction count generalizing run shown output with
  | zero =>
      simp [perform, turn_of_lt notOver (by omega : maxSteps < shown),
        Run.take]
  | succ count induction =>
      have goesOnNext :
          run.machine.isHalting run.advance.latest.state = false :=
        goesOn 0 count.succ_pos run.advance.latest (by
          simp [Run.nth_zero, notOver])
      rw [← Nat.add_assoc,
        perform_of_snapshot_ok
          (turn_of_not_halting notOver (by omega) goesOnNext),
        induction (run.isOver_advance.trans goesOnNext) _ (by omega)]
      · simp [Run.take, notOver, snapshots_cons, String.append_assoc]
      · intro place before configuration yielded
        apply goesOn (place + 1) (by omega) configuration
        simpa [Run.nth_succ_eq_nth_advance, notOver] using yielded

/-- No session that follows finds its run already over. -/
theorem isOver_eq_false_of_leads
    {session later : Session}
    (notOver : session.run.isOver = false)
    (follows : Relation.ReflTransGen Leads session later) :
    later.run.isOver = false := by
  cases follows with
  | refl => exact notOver
  | tail _ leads => exact leads.isOver_eq_false

section Transcripts

variable
    {machine : Machine}
    {word : String}
    {maxSteps : Nat}

theorem transcript_of_halting
    {steps : Nat} {final : Configuration}
    (yielded : ((Run.begin machine word).nth steps).1 = some final)
    (halts : machine.isHalting final.state = true)
    (within : steps ≤ maxSteps) (input : List UInt8) :
    (begin machine word maxSteps).transcript true input =
      .ended
        (snapshots machine ((Run.begin machine word).take (steps + 1)).1 ++
          closing (verdictOn machine final) steps)
        (verdictOn machine final) := by
  have budget : maxSteps + 2 = maxSteps + 1 - steps + steps + 1 := by
    omega
  have allowed : 0 + steps ≤ maxSteps := by
    omega
  simp only [transcript, begin, budget]
  rw [perform_of_halting yielded halts allowed]
  simp [Run.begin]

theorem transcript_of_not_halting
    (goesOn : ∀ steps ≤ maxSteps, ∀ configuration,
      ((Run.begin machine word).nth steps).1 = some configuration →
        machine.isHalting configuration.state = false)
    (input : List UInt8) :
    (begin machine word maxSteps).transcript true input =
      .ended
        (snapshots machine ((Run.begin machine word).take (maxSteps + 1)).1 ++
          closing .outOfSteps maxSteps)
        .outOfSteps := by
  have budget : maxSteps + 2 = 0 + (maxSteps + 1) + 1 := by
    omega
  simp only [transcript, begin, budget]
  rw [perform_of_not_halting (Run.isOver_begin machine word)]
  · simp [Run.begin]
  · intro steps before
    exact goesOn steps (by omega)
  · omega

end Transcripts

end Session

theorem chooseDescription_of_program
    {storage : Storage} {asked : Arguments}
    {name : String} {program : Program}
    (chosen : asked.program? = some name)
    (found : Catalogue.byName name = .ok program) :
    chooseDescription storage asked =
      .ok (program.description, some program.sample) := by
  simp only [chooseDescription, chosen, found]
  rfl

/-- Arguments that choose a machine and a word are answered by the transcript of its session. -/
theorem execute_eq_transcript
    {storage : Storage} {input rest : List UInt8} {arguments : List String}
    {asked : Arguments} {description : Description} {sample? : Option String}
    {machine : Machine} {word : String}
    (understood : Arguments.read arguments = .ok asked)
    (notListing : asked.list = false)
    (loaded : chooseDescription storage asked = .ok (description, sample?))
    (built : description.build = .ok machine)
    (resolved :
      (chooseWord asked sample?).resolve storage input = .ok (word, rest))
    (pausable : asked.delay.ratio.1 < 2 ^ 64 * asked.delay.ratio.2) :
    execute storage input arguments =
      (Session.begin machine word asked.maxSteps).transcript asked.auto
        rest := by
  have finite : isEndless asked.delay = false := by
    rw [isEndless, decide_eq_false_iff_not, Nat.not_le]
    exact pausable
  simp only [execute, understood, notListing, runChosen, prepare, loaded,
    bind, Except.bind, built, pure, Except.pure, resolved, finite]
  rfl

/--
A machine that is loaded and built, run without prompts on the word its
arguments choose, leaves behind exactly a snapshot of every configuration of its
run and a closing line.  If the run halts within the step limit the snapshots
reach to the configuration it halts with, and otherwise to the one after as many
steps as are allowed.  No session on the way is met with its run already over.
-/
theorem execute_auto_eq_snapshots
    {storage : Storage} {input rest : List UInt8} {arguments : List String}
    {asked : Arguments} {description : Description} {sample? : Option String}
    {machine : Machine} {word : String}
    (understood : Arguments.read arguments = .ok asked)
    (notListing : asked.list = false) (auto : asked.auto = true)
    (loaded : chooseDescription storage asked = .ok (description, sample?))
    (built : description.build = .ok machine)
    (resolved :
      (chooseWord asked sample?).resolve storage input = .ok (word, rest))
    (pausable : asked.delay.ratio.1 < 2 ^ 64 * asked.delay.ratio.2) :
    (∀ (steps : Nat) (final : Configuration),
      ((Run.begin machine word).nth steps).1 = some final →
      machine.isHalting final.state = true →
      steps ≤ asked.maxSteps →
        execute storage input arguments =
          { exitCode := if final.state = machine.accept then 0 else 1
            output :=
              snapshots machine
                  ((List.range (steps + 1)).filterMap fun place =>
                    ((Run.begin machine word).nth place).1) ++
                ((if final.state = machine.accept then "\nAccepted after "
                  else "\nRejected after ") ++ toString steps ++ " steps.\n")
            complaint := "" }) ∧
    ((∀ steps ≤ asked.maxSteps, ∀ configuration,
        ((Run.begin machine word).nth steps).1 = some configuration →
          machine.isHalting configuration.state = false) →
      execute storage input arguments =
        { exitCode := 2
          output :=
            snapshots machine
                ((List.range (asked.maxSteps + 1)).filterMap fun place =>
                  ((Run.begin machine word).nth place).1) ++
              ("\nStep limit of " ++ toString asked.maxSteps ++ " reached.\n")
          complaint := "" }) ∧
    (∀ (tape : Tape) (shownBlank : Symbol),
      tape.render shownBlank =
        String.ofList
          ((tape.content.take tape.headOffset).map (·.present shownBlank) ++
            '[' :: tape.read.present shownBlank :: ']' ::
              (tape.content.drop (tape.headOffset + 1)).map
                (·.present shownBlank))) ∧
    (∀ session : Session,
      Relation.ReflTransGen Session.Leads
          (Session.begin machine word asked.maxSteps) session →
        session.turn ≠ .ending "" .rejected) := by
  rw [execute_eq_transcript understood notListing loaded built resolved
    pausable, auto]
  refine ⟨?_, ?_, Tape.render_eq, ?_⟩
  · intro steps final yielded halts within
    rw [Session.transcript_of_halting yielded halts within, Run.take_begin]
    by_cases accepts : final.state = machine.accept
    · simp only [verdictOn, accepts, if_true]
      rfl
    · simp only [verdictOn, accepts, if_false]
      rfl
  · intro goesOn
    rw [Session.transcript_of_not_halting goesOn, Run.take_begin]
    rfl
  · intro session follows
    exact
      Session.turn_ne_ending_of_isOver_eq_false
        (Session.isOver_eq_false_of_leads
          (Run.isOver_begin machine word) follows)

theorem execute_auto_eq_snapshots_single_letter :
    execute (FileTree.directory []).storage []
        ["-p", "palindrome", "-w", "a", "--auto", "--max-steps", "3"] =
      { exitCode := 0
        output :=
          snapshots Catalogue.palindromeMachine
              ((List.range (3 + 1)).filterMap fun place =>
                ((Run.begin Catalogue.palindromeMachine "a").nth place).1) ++
            ("\nAccepted after " ++ toString 3 ++ " steps.\n")
        complaint := "" } := by
  have understood :
      Arguments.read
          ["-p", "palindrome", "-w", "a", "--auto", "--max-steps", "3"] =
        .ok
          { program? := some "palindrome"
            word? := some "a"
            auto := true
            maxSteps? := some 3 } :=
    rfl
  have loaded :
      chooseDescription (FileTree.directory []).storage
          { program? := some "palindrome"
            word? := some "a"
            auto := true
            maxSteps? := some 3 } =
        .ok (Catalogue.palindrome, some "abba") :=
    chooseDescription_of_program rfl Catalogue.byName_palindrome
  have resolved :
      (WordSource.given "a").resolve (FileTree.directory []).storage [] =
        .ok ("a", []) :=
    rfl
  have pausable :
      Arguments.defaultDelay.ratio.1 <
        2 ^ 64 * Arguments.defaultDelay.ratio.2 := by
    decide
  have halting :=
    (execute_auto_eq_snapshots understood rfl rfl loaded
      Catalogue.build_palindrome resolved pausable).1 3
      (Catalogue.palindromeMachine.course "a" 3) rfl rfl (by decide)
  have accepts :
      (Catalogue.palindromeMachine.course "a" 3).state =
        Catalogue.palindromeMachine.accept :=
    rfl
  simp only [if_pos accepts] at halting
  exact halting

end CommandLine

end TapeMachine
