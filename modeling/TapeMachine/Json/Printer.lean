import TapeMachine.Json.Value

/-!
# Writing JSON

Documents are written for people: one member or element a line, two more spaces
at the front for each level, and a space behind each colon.  An empty array and
an empty object stay on their line.  Strings escape only what must be escaped.
-/

namespace TapeMachine.Json

/-- Four hexadecimal digits in lower case. -/
def fourDigits (code : Nat) : List Char :=
  [code / 4096, code / 256, code / 16, code].map fun part => Nat.digitChar (part % 16)

/-- How a character is written in a string literal. -/
def escaped (c : Char) : List Char :=
  if c = '"' then ['\\', '"']
  else if c = '\\' then ['\\', '\\']
  else if c = '\x08' then ['\\', 'b']
  else if c = '\x0c' then ['\\', 'f']
  else if c = '\n' then ['\\', 'n']
  else if c = '\r' then ['\\', 'r']
  else if c = '\t' then ['\\', 't']
  else if c.toNat < 0x20 then '\\' :: 'u' :: fourDigits c.toNat
  else [c]

/-- One part of a string literal as it is written. -/
def StringPart.print : StringPart → List Char
  | char c => escaped c
  | unit code => '\\' :: 'u' :: fourDigits code

/-- A string literal with its quotes. -/
def printString (parts : List StringPart) : List Char :=
  '"' :: (parts.flatMap StringPart.print ++ ['"'])

/-- A numeral as it is written. -/
def Numeral.print (numeral : Numeral) : List Char :=
  let digits (values : List Nat) : List Char := values.map Nat.digitChar
  let sign := if numeral.negative then ['-'] else []
  let fraction := if numeral.fraction.isEmpty then [] else '.' :: digits numeral.fraction
  let exponent :=
    match numeral.exponent? with
    | none => []
    | some power =>
      'e' :: ((if power < 0 then ['-'] else []) ++ Nat.toDigits 10 power.natAbs)
  sign ++ digits numeral.whole ++ fraction ++ exponent

/-- A new line at a level of nesting. -/
def newLine (level : Nat) : List Char :=
  '\n' :: List.replicate (2 * level) ' '

mutual

/-- A value at a level of nesting. -/
def Value.print (level : Nat) : Value → List Char
  | .null => ['n', 'u', 'l', 'l']
  | .bool true => ['t', 'r', 'u', 'e']
  | .bool false => ['f', 'a', 'l', 's', 'e']
  | .number numeral => numeral.print
  | .string parts => printString parts
  | .array [] => ['[', ']']
  | .array (first :: rest) =>
    '[' :: (newLine (level + 1) ++ first.print (level + 1) ++
      (printElements (level + 1) rest ++ (newLine level ++ [']'])))
  | .object [] => ['{', '}']
  | .object ((name, value) :: rest) =>
    '{' :: (newLine (level + 1) ++ printString name ++ ':' :: ' ' :: value.print (level + 1) ++
      (printMembers (level + 1) rest ++ (newLine level ++ ['}'])))

/-- The elements of an array behind its first one. -/
def printElements (level : Nat) : List Value → List Char
  | [] => []
  | element :: rest =>
    ',' :: (newLine level ++ element.print level ++ printElements level rest)

/-- The members of an object behind its first one. -/
def printMembers (level : Nat) : List (List StringPart × Value) → List Char
  | [] => []
  | (name, value) :: rest =>
    ',' :: (newLine level ++ printString name ++ ':' :: ' ' :: value.print level ++
      printMembers level rest)

end

end TapeMachine.Json
