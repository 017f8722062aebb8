import TapeMachine.CommandLine.Execution

/-!
# The program

The outer layer: it reads files and lines, prints, and pauses.  What is read and
what is printed is decided by the library.
-/

namespace TapeMachine.CommandLine

/-- Reads a file into the storage of a program. -/
def readOutside (path : String) : IO (Except Fault ByteArray) := do
  try
    return .ok (← IO.FS.readBinFile path)
  catch failure =>
    match failure with
    | .noFileOrDirectory .. => return .error .notFound
    | .inappropriateType .. => return .error .isDirectory
    | _ => return .error (.other (toString failure))

/-- The storage that holds what was read of some files. -/
def storageOf (files : List (String × Except Fault ByteArray)) : Storage where
  readFile path := (files.lookup path).getD (.error .notFound)
  isDirectory _ := false
  listDirectory _ := .error .notFound

/-- The files that a program with these arguments may read. -/
def wantedFiles (arguments : Arguments) : List String :=
  arguments.machine?.toList ++ arguments.input?.toList

/-- Reads one line of input, its end included, byte by byte. -/
partial def readBytes (input : IO.FS.Stream) (line : Array UInt8) : IO (Array UInt8) := do
  let next ← input.read 1
  match next.toList with
  | [] => return line
  | byte :: _ => if byte = 10 then return line.push byte else readBytes input (line.push byte)

/-- Pauses for a number of seconds. -/
def pauseFor (delay : Binary64) : IO Unit := do
  let (numerator, denominator) := delay.ratio
  let milliseconds := 1000 * numerator / denominator
  for _ in [0 : milliseconds / 1000] do
    IO.sleep 1000
  IO.sleep (UInt32.ofNat (milliseconds % 1000))

/-- Prints an outcome and returns its exit code. -/
def report (outcome : Outcome) : IO UInt32 := do
  IO.print outcome.output
  IO.eprint outcome.complaint
  return UInt32.ofNat outcome.exitCode

/-- Performs a session turn by turn. -/
partial def perform (arguments : Arguments) (input : IO.FS.Stream) (session : Session) :
    IO UInt32 := do
  match session.turn with
  | .ending text verdict => report (.ended text verdict)
  | .snapshot text next =>
    let line ← if arguments.auto then pure #[] else
      IO.print prompt
      readBytes input #[]
    match pace arguments.auto line.toList with
    | (_, .error fault) => report (.failure "" (.unreadable (.paceLine fault)))
    | (_, .ok _) =>
      pauseFor arguments.delay
      IO.print text
      match next with
      | .error verdict => report (.ended "" verdict)
      | .ok session => perform arguments input session

/-- Runs what the arguments choose. -/
def runOutside (arguments : Arguments) : IO UInt32 := do
  let files ← (wantedFiles arguments).mapM fun path => return (path, ← readOutside path)
  let storage := storageOf files
  let input ← IO.getStdin
  match prepare storage arguments with
  | .error error => report (.failure "" error)
  | .ok (machine, source) =>
    IO.print (source.question (← input.isTty))
    (← IO.getStdout).flush
    let line ← if source = .input then readBytes input #[] else pure #[]
    match source.resolve storage line.toList with
    | .error error => report (.failure "" error)
    | .ok (word, _) =>
      if isEndless arguments.delay then report crash
      else perform arguments input (.begin machine word arguments.maxSteps)

end TapeMachine.CommandLine

open TapeMachine.CommandLine in
/-- Runs the program. -/
def main (arguments : List String) : IO UInt32 := do
  match Arguments.read arguments with
  | .error stop => report stop.outcome
  | .ok asked => if asked.list then report listing else runOutside asked
