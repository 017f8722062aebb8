import TapeMachine.Error
import TapeMachine.Run

/-!
# Sessions

A session shows a run on the screen, one snapshot a turn.  It ends at the first
halting configuration, or at the turn after the step limit was used up: the
configuration a run begins with is not a step, so one snapshot more than the
limit is shown.  A session does nothing by itself.  Whoever performs it prints
the texts, and takes a line of input before each snapshot unless the session
runs on its own.

The snapshots are counted by a natural number.  A counter of 64 bits does the
same for the first 2^64 snapshots, and nothing is said here of what follows them.
-/

namespace TapeMachine.CommandLine

/-- How a session ends. -/
inductive Verdict where
  | accepted
  | rejected
  | outOfSteps
  deriving DecidableEq

/-- The exit code of a verdict. -/
def Verdict.exitCode : Verdict → Nat
  | accepted => 0
  | rejected => 1
  | outOfSteps => 2

/-- A run being shown. -/
structure Session where
  run : Run
  shown : Nat
  maxSteps : Nat

/-- One turn of a session. -/
inductive Turn where
  /-- The session ends with a last text, for which no line of input is taken. -/
  | ending (text : String) (verdict : Verdict)
  /-- A snapshot is shown; the session ends with it, or goes on. -/
  | snapshot (text : String) (next : Except Verdict Session)

namespace Session

/-- The session of a machine on a word, before anything is shown. -/
def begin (machine : Machine) (word : String) (maxSteps : Nat) : Session where
  run := Run.begin machine word
  shown := 0
  maxSteps

/-- The text of a configuration: its state, and its tape with a space between two cells. -/
def snapshotText (configuration : Configuration) (shownBlank : Symbol) : String :=
  "State: " ++ configuration.state ++ "\n" ++
    String.ofList ([' '].intercalate (configuration.tape.cellTexts shownBlank)) ++ "\n"

/-- How a configuration ends a run, if it does; acceptance goes first. -/
def verdict? (machine : Machine) (configuration : Configuration) : Option Verdict :=
  if configuration.state = machine.accept then some .accepted
  else if configuration.state = machine.reject then some .rejected
  else none

/-- The last words on a run that took some steps. -/
def closing (verdict : Verdict) (steps : Nat) : String :=
  match verdict with
  | .accepted => "\nAccepted after " ++ toString steps ++ " steps.\n"
  | .rejected => "\nRejected after " ++ toString steps ++ " steps.\n"
  | .outOfSteps => "\nStep limit of " ++ toString steps ++ " reached.\n"

/-- The next turn. -/
def turn (session : Session) : Turn :=
  match session with
  | { run, shown, maxSteps } =>
    if run.isOver then .ending "" .rejected
    else if maxSteps < shown then .ending (closing .outOfSteps maxSteps) .outOfSteps
    else
      let further := run.advance
      let text := snapshotText further.latest further.machine.shownBlank
      match verdict? further.machine further.latest with
      | some verdict => .snapshot (text ++ closing verdict shown) (.error verdict)
      | none => .snapshot text (.ok { run := further, shown := shown + 1, maxSteps })

end Session

/-- What a program leaves behind: its exit code and what it wrote. -/
structure Outcome where
  exitCode : Nat
  output : String
  complaint : String
  deriving DecidableEq

/-- The outcome of a failure after some output. -/
def Outcome.failure (output : String) (error : MachineError) : Outcome where
  exitCode := 1
  output
  complaint := "Error: " ++ error.message ++ "\n"

/-- The outcome of a verdict after some output. -/
def Outcome.ended (output : String) (verdict : Verdict) : Outcome where
  exitCode := verdict.exitCode
  output
  complaint := ""

/-- The bytes of the first line of some input, its end included, and what follows them. -/
def takeLine : List UInt8 → List UInt8 × List UInt8
  | [] => ([], [])
  | byte :: rest =>
    if byte = 10 then ([byte], rest)
    else
      let (line, rest) := takeLine rest
      (byte :: line, rest)

/-- The text of the first line of some input, and what follows it. -/
def readLine (input : List UInt8) : Except Fault (String × List UInt8) :=
  let (line, rest) := takeLine input
  match String.fromUTF8? (ByteArray.mk line.toArray) with
  | some text => .ok (text, rest)
  | none => .error .notText

/-- What a session asks for before each snapshot, unless it runs on its own. -/
def prompt : String :=
  "Press Enter to continue:\n"

/-- The prompt, and the input after the line taken there, if a session does not run on its own. -/
def pace (auto : Bool) (input : List UInt8) : String × Except Fault (List UInt8) :=
  if auto then ("", .ok input)
  else (prompt, (readLine input).map Prod.snd)

/--
Performs at most `fuel` turns of a session on some input, after some output.  A
session has at most two turns more than its step limit.
-/
def Session.perform (auto : Bool) : Nat → Session → List UInt8 → String → Outcome
  | 0, _, _, output => .ended output .rejected
  | fuel + 1, session, input, output =>
    match session.turn with
    | .ending text verdict => .ended (output ++ text) verdict
    | .snapshot text next =>
      match pace auto input with
      | (asked, .error fault) => .failure (output ++ asked) (.unreadable (.paceLine fault))
      | (asked, .ok input) =>
        let output := output ++ asked ++ text
        match next with
        | .error verdict => .ended output verdict
        | .ok session => session.perform auto fuel input output

/-- Performs a session from its beginning to its end. -/
def Session.transcript (auto : Bool) (session : Session) (input : List UInt8) : Outcome :=
  session.perform auto (session.maxSteps + 2) input ""

end TapeMachine.CommandLine
