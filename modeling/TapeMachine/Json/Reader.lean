import TapeMachine.Json.Value

/-!
# Reading JSON

The reader follows the grammar of JSON and nothing else: it does not ask what a
string or a numeral means, nor how deep a value is nested.  The nesting of calls
is bounded by the length of the text, since of two nested calls one takes a
character.
-/

namespace TapeMachine.Json

/-- Whether a character may stand between the tokens of a document. -/
def isSpace (c : Char) : Bool :=
  c == ' ' || c == '\n' || c == '\t' || c == '\r'

/-- The text without the space it begins with. -/
def skipSpace (text : List Char) : List Char :=
  text.dropWhile isSpace

/-- The value of a hexadecimal digit of either case. -/
def hexDigit? (c : Char) : Option Nat :=
  if '0' ≤ c ∧ c ≤ '9' then some (c.toNat - '0'.toNat)
  else if 'a' ≤ c ∧ c ≤ 'f' then some (c.toNat - 'a'.toNat + 10)
  else if 'A' ≤ c ∧ c ≤ 'F' then some (c.toNat - 'A'.toNat + 10)
  else none

/-- The unit written as four hexadecimal digits. -/
def unit? (first second third fourth : Char) : Option Nat := do
  let first ← hexDigit? first
  let second ← hexDigit? second
  let third ← hexDigit? third
  let fourth ← hexDigit? fourth
  return ((first * 16 + second) * 16 + third) * 16 + fourth

/-- The character that a letter behind a backslash stands for. -/
def escapedChar? (letter : Char) : Option Char :=
  if letter = '"' then some '"'
  else if letter = '\\' then some '\\'
  else if letter = '/' then some '/'
  else if letter = 'b' then some '\x08'
  else if letter = 'f' then some '\x0c'
  else if letter = 'n' then some '\n'
  else if letter = 'r' then some '\r'
  else if letter = 't' then some '\t'
  else none

/-- Reads a string literal behind its first quote. -/
def readString? : List Char → Option (List StringPart × List Char)
  | [] => none
  | '"' :: rest => some ([], rest)
  | '\\' :: 'u' :: first :: second :: third :: fourth :: rest => do
    let code ← unit? first second third fourth
    let (parts, rest) ← readString? rest
    return (.unit code :: parts, rest)
  | '\\' :: letter :: rest => do
    let c ← escapedChar? letter
    let (parts, rest) ← readString? rest
    return (.char c :: parts, rest)
  | c :: rest =>
    if c.toNat < 0x20 then none
    else do
      let (parts, rest) ← readString? rest
      return (.char c :: parts, rest)

/-- Reads at least one decimal digit. -/
def readDigits? (text : List Char) : Option (List Nat × List Char) :=
  match Decimal.takeDigits text with
  | ([], _) => none
  | found => some found

/-- Reads the whole part of a numeral, which has no zero in front of other digits. -/
def readWhole? (text : List Char) : Option (List Nat × List Char) :=
  match readDigits? text with
  | some (0 :: _ :: _, _) => none
  | found => found

/-- Reads the digits after a point, if there is a point. -/
def readFraction? : List Char → Option (List Nat × List Char)
  | '.' :: rest => readDigits? rest
  | text => some ([], text)

/-- Reads the power of ten behind an `e`, if there is one. -/
def readExponent? : List Char → Option (Option Int × List Char)
  | [] => some (none, [])
  | c :: rest =>
    if c = 'e' ∨ c = 'E' then
      (Decimal.takeInteger? rest).map fun (power, rest) => (some power, rest)
    else some (none, c :: rest)

/-- Reads a numeral without its minus sign. -/
def readMagnitude? (negative : Bool) (text : List Char) : Option (Value × List Char) := do
  let (whole, rest) ← readWhole? text
  let (fraction, rest) ← readFraction? rest
  let (exponent?, rest) ← readExponent? rest
  return (.number { negative, whole, fraction, exponent? }, rest)

/-- Reads a numeral. -/
def readNumeral? : List Char → Option (Value × List Char)
  | '-' :: rest => readMagnitude? true rest
  | text => readMagnitude? false text

/-- Reads a colon. -/
def readColon? (text : List Char) : Option (List Char) :=
  match skipSpace text with
  | ':' :: rest => some rest
  | _ => none

mutual

/-- Reads a value, with at most `fuel` calls nested. -/
def readValue? : Nat → List Char → Option (Value × List Char)
  | 0, _ => none
  | fuel + 1, text =>
    match skipSpace text with
    | 'n' :: 'u' :: 'l' :: 'l' :: rest => some (.null, rest)
    | 't' :: 'r' :: 'u' :: 'e' :: rest => some (.bool true, rest)
    | 'f' :: 'a' :: 'l' :: 's' :: 'e' :: rest => some (.bool false, rest)
    | '"' :: rest => (readString? rest).map fun (parts, rest) => (.string parts, rest)
    | '[' :: rest =>
      match skipSpace rest with
      | ']' :: rest => some (.array [], rest)
      | rest => (readElements? fuel rest).map fun (elements, rest) => (.array elements, rest)
    | '{' :: rest =>
      match skipSpace rest with
      | '}' :: rest => some (.object [], rest)
      | rest => (readMembers? fuel rest).map fun (members, rest) => (.object members, rest)
    | text => readNumeral? text

/-- Reads the elements of an array, at least one, and its closing bracket. -/
def readElements? : Nat → List Char → Option (List Value × List Char)
  | 0, _ => none
  | fuel + 1, text => do
    let (element, rest) ← readValue? fuel text
    match skipSpace rest with
    | ']' :: rest => return ([element], rest)
    | ',' :: rest =>
      let (elements, rest) ← readElements? fuel rest
      return (element :: elements, rest)
    | _ => none

/-- Reads the members of an object, at least one, and its closing brace. -/
def readMembers? : Nat → List Char → Option (List (List StringPart × Value) × List Char)
  | 0, _ => none
  | fuel + 1, text =>
    match skipSpace text with
    | '"' :: rest => do
      let (name, rest) ← readString? rest
      let rest ← readColon? rest
      let (value, rest) ← readValue? fuel rest
      match skipSpace rest with
      | '}' :: rest => return ([(name, value)], rest)
      | ',' :: rest =>
        let (members, rest) ← readMembers? fuel rest
        return ((name, value) :: members, rest)
      | _ => none
    | _ => none

end

/-- The one value a document consists of. -/
def Value.read? (document : List Char) : Option Value :=
  match readValue? (2 * document.length + 2) document with
  | some (value, rest) => if (skipSpace rest).isEmpty then some value else none
  | none => none

end TapeMachine.Json
