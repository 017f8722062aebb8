/-!
# Options of the command line

Every option has a long name behind two hyphens; most have a letter behind one
hyphen too.  Some take a value.
-/

namespace TapeMachine.CommandLine

/-- An option. -/
inductive Flag where
  | machine
  | program
  | word
  | auto
  | delay
  | maxSteps
  | list
  | help
  | version
  deriving DecidableEq

namespace Flag

/-- All options. -/
def all : List Flag :=
  [machine, program, word, auto, delay, maxSteps, list, help, version]

/-- The long name of an option, without its hyphens. -/
def name : Flag → String
  | machine => "machine"
  | program => "program"
  | word => "word"
  | auto => "auto"
  | delay => "delay"
  | maxSteps => "max-steps"
  | list => "list"
  | help => "help"
  | version => "version"

/-- The letter of an option. -/
def letter? : Flag → Option Char
  | machine => some 'm'
  | program => some 'p'
  | word => some 'w'
  | help => some 'h'
  | version => some 'V'
  | auto | delay | maxSteps | list => none

/-- What the value of an option is called, if it takes one. -/
def valueName? : Flag → Option String
  | machine => some "MACHINE"
  | program => some "PROGRAM"
  | word => some "WORD"
  | delay => some "DELAY"
  | maxSteps => some "MAX_STEPS"
  | auto | list | help | version => none

/-- Whether an option takes a value. -/
def takesValue (flag : Flag) : Bool :=
  flag.valueName?.isSome

/-- The option with a long name. -/
def ofName? (name : String) : Option Flag :=
  all.find? (·.name == name)

/-- The option with a letter. -/
def ofLetter? (letter : Char) : Option Flag :=
  all.find? (·.letter? == some letter)

/-- An option as messages show it. -/
def shown (flag : Flag) : String :=
  match flag.valueName? with
  | some value => "--" ++ flag.name ++ " <" ++ value ++ ">"
  | none => "--" ++ flag.name

end Flag

end TapeMachine.CommandLine
