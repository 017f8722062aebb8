import TapeMachine.Format.Report
import TapeMachine.Json.Mismatch

/-!
# Errors

Everything that can go wrong before a machine runs, by its cause.  Running a
machine never fails: a missing rule is a rejection.  The wording of every error
is here.
-/

namespace TapeMachine

/-- Why a file or a directory could not be read. -/
inductive Fault where
  | notFound
  | notDirectory
  | isDirectory
  | notText
  | other (words : String)
  deriving DecidableEq

/-- A fault in words. -/
def Fault.message : Fault → String
  | notFound => "No such file or directory (os error 2)"
  | notDirectory => "Not a directory (os error 20)"
  | isDirectory => "Is a directory (os error 21)"
  | notText => "stream did not contain valid UTF-8"
  | other words => words

/-- The largest size of a description text, in bytes of its UTF-8 form. -/
def sizeLimit : Nat := 65536

/-- Why a description, or the choice of one, is not valid. -/
inductive Invalidity where
  | tooLarge (bytes : Nat)
  | missing (keyword : Format.Keyword)
  | empty
  | mismatch (mismatch : Json.Mismatch)
  | unknownProgram (name : String)
  | outOfRange (index : Nat)
  | noDescription
  | other (words : String)
  deriving DecidableEq

/-- An invalidity in words. -/
def Invalidity.message : Invalidity → String
  | tooLarge bytes =>
    "Description is " ++ toString bytes ++ " bytes, the limit is " ++ toString sizeLimit ++ " bytes"
  | missing keyword => "Missing '" ++ keyword.name ++ "' declaration"
  | empty => "Empty description"
  | mismatch found => found.message
  | unknownProgram name => "Program '" ++ name ++ "' not found"
  | outOfRange index => "Program index " ++ toString index ++ " out of range"
  | noDescription => "No machine description given"
  | other words => words

/-- What was being read when a fault occurred. -/
inductive ReadingFailure where
  | file (path : String) (fault : Fault)
  | directory (path : String) (fault : Fault)
  /-- One entry of a directory that was listed. -/
  | entry (fault : Fault)
  /-- The line of input that holds the word. -/
  | wordLine (fault : Fault)
  /-- A line of input that only paces the run. -/
  | paceLine (fault : Fault)
  | other (words : String)
  deriving DecidableEq

/-- A reading failure in words. -/
def ReadingFailure.message : ReadingFailure → String
  | file path fault => "Failed to read file " ++ path ++ ": " ++ fault.message
  | directory path fault => "Failed to read directory " ++ path ++ ": " ++ fault.message
  | entry fault => "Failed to read directory entry: " ++ fault.message
  | wordLine fault => "Failed to read from stdin: " ++ fault.message
  | paceLine fault => fault.message
  | other words => words

/-- Why there is no machine, or no word, to run. -/
inductive MachineError where
  /-- Two transitions apply to one situation; the symbol is the one of the description. -/
  | duplicateTransition (state : String) (symbol : Symbol)
  | report (report : Format.Report)
  | invalid (invalidity : Invalidity)
  | notJson
  | unreadable (failure : ReadingFailure)
  deriving DecidableEq

/-- An error in words. -/
def MachineError.message : MachineError → String
  | duplicateTransition state symbol =>
    "Duplicate transition for state " ++ state ++ " and symbol " ++ Text.quotedChar symbol
  | report found => "Description parsing error: " ++ found.render
  | invalid invalidity => "Description validation error: " ++ invalidity.message
  | notJson => "not JSON"
  | unreadable failure => "File error: " ++ failure.message

end TapeMachine
