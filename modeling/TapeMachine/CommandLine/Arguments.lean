import TapeMachine.CommandLine.Flag
import TapeMachine.CommandLine.Literal
import TapeMachine.Text.ControlSequence

/-!
# Arguments

The arguments are read from left to right.  An option takes effect when it is
complete: at once if it takes no value or its value is attached to it, and
otherwise when the next option or word of its own is met, or the arguments end.
An argument nobody knows is therefore reported before anything that is wrong
with a value standing in front of it.  What is wrong with the arguments as a
whole is found last.
-/

namespace TapeMachine.CommandLine

/-- What is wrong with the arguments. -/
inductive ArgumentError where
  | unexpected (argument : String)
  | unexpectedValue (flag : Flag) (value : String)
  | valueMissing (flag : Flag)
  | repeated (flag : Flag)
  | badCount (value : String) (fault : CountFault)
  | badDelay (value : String) (fault : DelayFault)
  | conflict (first second : Flag)
  | nothingToRun
  deriving DecidableEq

/-- The fault of a delay, in words. -/
def DelayFault.message (value : String) : DelayFault → String
  | empty => "'" ++ value ++ "' is not a number: cannot parse float from empty string"
  | notNumber => "'" ++ value ++ "' is not a number: invalid float literal"
  | notDuration => "'" ++ value ++ "' is not a non-negative number of seconds"

/--
What the user wrote, between the sequences that switch a colour on and off.  The
second of them also ends any sequence that was left open.
-/
def marked (text : String) : String :=
  "\x1b[33m" ++ text ++ "\x1b[0m"

/-- An invalid value, in words. -/
def invalidValue (flag : Flag) (value reason : String) : String :=
  "invalid value '" ++ marked value ++ "' for '" ++ flag.shown ++ "': " ++ reason

/-- What is wrong, in words for a terminal. -/
def ArgumentError.message : ArgumentError → String
  | unexpected argument => "unexpected argument '" ++ marked argument ++ "' found"
  | unexpectedValue flag value =>
    "unexpected value '" ++ marked value ++ "' for '" ++ flag.shown ++
      "' found; no more were expected"
  | valueMissing flag => "a value is required for '" ++ flag.shown ++ "' but none was supplied"
  | repeated flag => "the argument '" ++ flag.shown ++ "' cannot be used multiple times"
  | badCount value fault => invalidValue .maxSteps value fault.message
  | badDelay value fault => invalidValue .delay value (fault.message value)
  | conflict first second =>
    "the argument '" ++ first.shown ++ "' cannot be used with '" ++ second.shown ++ "'"
  | nothingToRun => "the following required arguments were not provided:"

/-- The last paragraph of every complaint about arguments. -/
def helpHint : String :=
  "\n\nFor more information, try '" ++ marked "--help" ++ "'.\n"

/-- A text up to its first line feed, or to the carriage return just before it. -/
def firstLine : List Char → List Char
  | [] => []
  | '\n' :: _ => []
  | '\r' :: '\n' :: _ => []
  | c :: rest => c :: firstLine rest

/--
The complaint about arguments: the first line of what is left to read of it when
no terminal acts on its control sequences.  The hint is part of this line only
where a value has left a sequence open.
-/
def ArgumentError.complaint (error : ArgumentError) : String :=
  String.ofList
    (firstLine (Text.withoutControls ("error: " ++ error.message ++ helpHint).toList))

/-- What the arguments ask for. -/
structure Arguments where
  machine? : Option String := none
  program? : Option String := none
  word? : Option String := none
  input? : Option String := none
  auto : Bool := false
  list : Bool := false
  delay? : Option Binary64 := none
  maxSteps? : Option Nat := none
  /-- Whether the program was given before the machine, if both were. -/
  programFirst : Bool := false

namespace Arguments

/-- How many steps a run may take unless something else is asked for. -/
def defaultMaxSteps : Nat := 10000

/-- The pause before each snapshot unless something else is asked for: half a second. -/
def defaultDelay : Binary64 where
  significand := Nat.pow 2 52
  exponent := -53

/-- The number of steps after which to give up. -/
def maxSteps (arguments : Arguments) : Nat :=
  arguments.maxSteps?.getD defaultMaxSteps

/-- The pause before each snapshot. -/
def delay (arguments : Arguments) : Binary64 :=
  arguments.delay?.getD defaultDelay

end Arguments

/-- Why reading the arguments stops before their end. -/
inductive Stop where
  | error (error : ArgumentError)
  | version
  | help
  deriving DecidableEq

/-- Takes a value given for the first time. -/
def putOnce {α : Type} (flag : Flag) (old : Option α) (value : α) : Except Stop (Option α) :=
  match old with
  | some _ => .error (.error (.repeated flag))
  | none => .ok (some value)

/-- Takes a value that has to be read, given for the first time. -/
def readOnce {α ε : Type} (flag : Flag) (old : Option α) (value : String)
    (read : List Char → Except ε α) (wrong : ε → ArgumentError) : Except Stop (Option α) :=
  match old with
  | some _ => .error (.error (.repeated flag))
  | none =>
    match read value.toList with
    | .ok found => .ok (some found)
    | .error fault => .error (.error (wrong fault))

namespace Arguments

/-- Takes an option with its value. -/
def takeValue (arguments : Arguments) (flag : Flag) (value : String) : Except Stop Arguments :=
  match flag with
  | .machine =>
    (putOnce flag arguments.machine? value).map fun machine? =>
      { arguments with machine?, programFirst := arguments.program?.isSome }
  | .program =>
    (putOnce flag arguments.program? value).map fun program? => { arguments with program? }
  | .word =>
    (putOnce flag arguments.word? value).map fun word? => { arguments with word? }
  | .delay =>
    (readOnce flag arguments.delay? value readDelay (.badDelay value)).map fun delay? =>
      { arguments with delay? }
  | .maxSteps =>
    (readOnce flag arguments.maxSteps? value readCount (.badCount value)).map fun maxSteps? =>
      { arguments with maxSteps? }
  | .auto | .list | .help | .version => .error (.error (.unexpectedValue flag value))

/-- Takes an option without a value. -/
def takeSwitch (arguments : Arguments) (flag : Flag) : Except Stop Arguments :=
  match flag with
  | .auto =>
    if arguments.auto then .error (.error (.repeated flag)) else .ok { arguments with auto := true }
  | .list =>
    if arguments.list then .error (.error (.repeated flag)) else .ok { arguments with list := true }
  | .version => .error .version
  | .help => .error .help
  | .machine | .program | .word | .delay | .maxSteps => .error (.error (.valueMissing flag))

/-- Checks what can only be checked once all arguments are known. -/
def check (arguments : Arguments) : Except Stop Arguments :=
  match arguments.machine?, arguments.program? with
  | some _, some _ =>
    .error (.error (if arguments.programFirst then .conflict .program .machine
      else .conflict .machine .program))
  | none, none => if arguments.list then .ok arguments else .error (.error .nothingToRun)
  | _, _ => .ok arguments

end Arguments

/-- An option that is not complete. -/
inductive Pending where
  | nothing
  /-- The option waits for its value. -/
  | named (flag : Flag)
  /-- The option has its value and has not taken effect yet. -/
  | valued (flag : Flag) (value : String)
  deriving DecidableEq

/-- What is known between two arguments. -/
structure Progress where
  arguments : Arguments := {}
  pending : Pending := .nothing
  /-- Whether all further arguments are words. -/
  onlyWords : Bool := false

namespace Progress

/-- Completes the option that is not complete. -/
def settle (progress : Progress) : Except Stop Progress :=
  match progress.pending with
  | .nothing => .ok progress
  | .named flag => .error (.error (.valueMissing flag))
  | .valued flag value =>
    (progress.arguments.takeValue flag value).map fun arguments =>
      { progress with arguments, pending := .nothing }

/-- Takes an option that is complete. -/
def complete (progress : Progress) (take : Arguments → Except Stop Arguments) :
    Except Stop Progress := do
  let settled ← progress.settle
  let arguments ← take settled.arguments
  return { settled with arguments }

/-- Takes an option whose value is the next argument. -/
def await (progress : Progress) (flag : Flag) : Except Stop Progress := do
  let settled ← progress.settle
  return { settled with pending := .named flag }

/-- Takes a word that is no value of an option: the input file. -/
def takeWord (progress : Progress) (word : String) : Except Stop Progress :=
  match progress.arguments.input? with
  | some _ => .error (.error (.unexpected word))
  | none => progress.complete fun arguments => .ok { arguments with input? := some word }

/-- Takes a long option, given by what stands behind its two hyphens. -/
def takeLong (progress : Progress) (text : List Char) : Except Stop Progress :=
  let name := String.ofList (text.takeWhile (· != '='))
  let value? :=
    match text.dropWhile (· != '=') with
    | [] => none
    | _ :: value => some (String.ofList value)
  match Flag.ofName? name, value? with
  | none, _ => .error (.error (.unexpected ("--" ++ name)))
  | some flag, some value =>
    if flag.takesValue then progress.complete (·.takeValue flag value)
    else .error (.error (.unexpectedValue flag value))
  | some flag, none =>
    if flag.takesValue then progress.await flag else progress.complete (·.takeSwitch flag)

/-- Takes options by their letters; the first that takes a value takes all that follows. -/
def takeLetters (progress : Progress) : List Char → Except Stop Progress
  | [] => .ok progress
  | letter :: rest =>
    match Flag.ofLetter? letter with
    | none => .error (.error (.unexpected (String.ofList ['-', letter])))
    | some flag =>
      if flag.takesValue then
        match rest with
        | [] => progress.await flag
        | '=' :: value => progress.complete (·.takeValue flag (String.ofList value))
        | value => progress.complete (·.takeValue flag (String.ofList value))
      else do
        let further ← progress.complete (·.takeSwitch flag)
        further.takeLetters rest

/-- Takes the next argument. -/
def take (progress : Progress) (argument : String) : Except Stop Progress :=
  if progress.onlyWords then progress.takeWord argument
  else
    match argument.toList with
    | ['-', '-'] => .ok { progress with onlyWords := true }
    | '-' :: '-' :: text => progress.takeLong text
    | '-' :: letter :: rest => progress.takeLetters (letter :: rest)
    | _ =>
      match progress.pending with
      | .named flag => .ok { progress with pending := .valued flag argument }
      | _ => progress.takeWord argument

end Progress

/-- What the arguments of a command line ask for. -/
def Arguments.read (arguments : List String) : Except Stop Arguments := do
  let progress ← arguments.foldlM Progress.take {}
  let settled ← progress.settle
  settled.arguments.check

end TapeMachine.CommandLine
