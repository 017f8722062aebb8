import TapeMachine.Format.Reader

/-!
# The catalogue

Four programs that need no file, each with a word worth running it on.  They are
kept as description texts and read like any other.
-/

namespace TapeMachine

/-- A program of the catalogue. -/
structure Program where
  name : String
  sample : String
  description : Description
  deriving DecidableEq

namespace Catalogue

/-- Adds one to a binary number. -/
def binaryIncrementText : String :=
  "# Adds one to a binary number, most significant bit first.
start: right
accept: done
reject: qR
blank: B
right 0 -> right 0 >
right 1 -> right 1 >
right B -> carry B <
carry 1 -> carry 0 <
carry 0 -> done 1 ^
carry B -> done 1 ^
"

/-- Accepts the words over two letters that read the same in both directions. -/
def palindromeText : String :=
  "# Accepts palindromes over \x7ba, b\x7d.
start: q0
accept: qA
reject: qR
blank: _
q0 a -> qa _ >
q0 b -> qb _ >
q0 _ -> qA _ ^
qa a -> qa a >
qa b -> qa b >
qa _ -> qa1 _ <
qa1 a -> back _ <
qa1 _ -> qA _ ^
qb a -> qb a >
qb b -> qb b >
qb _ -> qb1 _ <
qb1 b -> back _ <
qb1 _ -> qA _ ^
back a -> back a <
back b -> back b <
back _ -> q0 _ >
"

/-- Adds two numbers written in strokes. -/
def unaryAdditionText : String :=
  "# Adds two unary numbers separated by '+'.
start: scan
accept: done
reject: qR
blank: B
scan 1 -> scan 1 >
scan + -> scan 1 >
scan B -> trim B <
trim 1 -> done B ^
"

/-- Never halts on a word of strokes. -/
def foreverText : String :=
  "# Never halts: stays on the first cell forever.
start: q0
accept: qA
reject: qR
blank: B
q0 B -> q0 B ^
q0 1 -> q0 1 ^
"

/-- The names, samples and texts of the programs. -/
def texts : List (String × String × String) := [
  ("binary-increment", "1011", binaryIncrementText),
  ("palindrome", "abba", palindromeText),
  ("unary-addition", "11+111", unaryAdditionText),
  ("forever", "1", foreverText)]

/-- The programs, in the order of the catalogue. -/
def programs : List Program :=
  texts.filterMap fun (name, sample, text) =>
    match Description.parse text with
    | .ok description => some { name, sample, description }
    | .error _ => none

/-- The number of programs. -/
def count : Nat :=
  programs.length

/-- The names of the programs. -/
def names : List String :=
  programs.map Program.name

/-- A program that was looked for, or the reason why there is none. -/
def lookup (absent : Invalidity) : Option Program → Except MachineError Program
  | some program => .ok program
  | none => .error (.invalid absent)

/-- The program with the given number, counted from zero. -/
def byIndex (index : Nat) : Except MachineError Program :=
  lookup (.outOfRange index) programs[index]?

/-- The program with the given name. -/
def byName (name : String) : Except MachineError Program :=
  lookup (.unknownProgram name) (programs.find? (·.name == name))

end Catalogue

end TapeMachine
