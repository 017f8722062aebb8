import TapeMachine.Building
import TapeMachine.Catalogue
import TapeMachine.CommandLine.Arguments
import TapeMachine.CommandLine.Session
import TapeMachine.Files.Loader

/-!
# Execution

What the program does with its arguments, its files and its input, as one
function from these to an outcome.  A run needs a description, then a machine,
then a word, and the first of them that cannot be had ends it.

The input of this function is a file or a pipe, and no terminal.  At a terminal
the question for the word is printed in front of all else, and nothing more is
different.  The arguments are texts: what becomes of an argument that is not
written in UTF-8 is not said here.
-/

namespace TapeMachine.CommandLine

/-- The version, as it is printed. -/
def versionText : String :=
  "tape-sim-cli 0.0.1\n"

/-- How the program is used, as it is printed. -/
def helpText : String :=
  "Runs a single-tape machine on a word and shows every configuration.\n\n" ++
  "Usage: [OPTIONS] [INPUT]\n\n" ++
  "  INPUT                    file that holds the input word\n" ++
  String.join (Flag.all.map fun flag =>
    let letter :=
      match flag.letter? with
      | some letter => String.ofList ['-', letter, ',', ' ']
      | none => "    "
    "  " ++ letter ++ flag.shown ++ "\n")

/-- The outcome of arguments that stop the program before it begins. -/
def Stop.outcome : Stop → Outcome
  | error wrong => { exitCode := 2, output := "", complaint := wrong.complaint }
  | version => { exitCode := 0, output := versionText, complaint := "" }
  | help => { exitCode := 0, output := helpText, complaint := "" }

/-- The outcome of listing the programs of the catalogue. -/
def listing : Outcome where
  exitCode := 0
  output := String.join (Catalogue.names.map (· ++ "\n"))
  complaint := ""

/-- Where a word comes from. -/
inductive WordSource where
  | given (word : String)
  | file (path : String)
  | input
  deriving DecidableEq

/-- The description that the arguments choose, and the sample that comes with it. -/
def chooseDescription (storage : Storage) (arguments : Arguments) :
    Except MachineError (Description × Option String) :=
  match arguments.program?, arguments.machine? with
  | some name, _ =>
    (Catalogue.byName name).map fun program => (program.description, some program.sample)
  | none, some path => (storage.loadDescription path).map fun description => (description, none)
  | none, none => .error (.invalid .noDescription)

/-- Where the word comes from: the word itself goes before a file, a file before a sample. -/
def chooseWord (arguments : Arguments) (sample? : Option String) : WordSource :=
  match arguments.word?, arguments.input?, sample? with
  | some word, _, _ => .given word
  | none, some path, _ => .file path
  | none, none, some sample => .given sample
  | none, none, none => .input

/-- What is printed in front of a word that has to be typed. -/
def wordPrompt : String :=
  "Enter input word: "

/-- What is printed in front of the word: nothing, unless it is typed at a terminal. -/
def WordSource.question (atTerminal : Bool) (source : WordSource) : String :=
  if atTerminal && source == .input then wordPrompt else ""

/-- The word of a source, and the input that is left; the input is not a terminal. -/
def WordSource.resolve (storage : Storage) (input : List UInt8) :
    WordSource → Except MachineError (String × List UInt8)
  | given word => .ok (word, input)
  | file path => (storage.loadWord path).map (·, input)
  | .input =>
    match readLine input with
    | .ok (line, rest) => .ok (String.ofList (Text.trim line.toList), rest)
    | .error fault => .error (.unreadable (.wordLine fault))

/-- The machine that the arguments choose, and where its word comes from. -/
def prepare (storage : Storage) (arguments : Arguments) :
    Except MachineError (Machine × WordSource) := do
  let (description, sample?) ← chooseDescription storage arguments
  let machine ← description.build
  return (machine, chooseWord arguments sample?)

/-- Whether a pause is too long to be made: 2^64 seconds or more. -/
def isEndless (delay : Binary64) : Bool :=
  Nat.pow 2 64 * delay.ratio.2 ≤ delay.ratio.1

/-- The outcome of a pause that is too long to be made: a crash before anything is shown. -/
def crash : Outcome where
  exitCode := 101
  output := ""
  complaint := "panic"

/-- The outcome of running what the arguments choose. -/
def runChosen (storage : Storage) (input : List UInt8) (arguments : Arguments) : Outcome :=
  let prepared : Except MachineError (Machine × String × List UInt8) := do
    let (machine, source) ← prepare storage arguments
    let (word, rest) ← source.resolve storage input
    return (machine, word, rest)
  match prepared with
  | .error error => .failure "" error
  | .ok (machine, word, rest) =>
    if isEndless arguments.delay then crash
    else (Session.begin machine word arguments.maxSteps).transcript arguments.auto rest

/-- The outcome of the program, with an input that is not a terminal. -/
def execute (storage : Storage) (input : List UInt8) (arguments : List String) : Outcome :=
  match Arguments.read arguments with
  | .error stop => stop.outcome
  | .ok asked => if asked.list then listing else runChosen storage input asked

end TapeMachine.CommandLine
