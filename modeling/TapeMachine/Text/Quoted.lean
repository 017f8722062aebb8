import TapeMachine.Text.Combining
import TapeMachine.Text.Unprintable

/-!
# Quoted text

Messages show characters and strings in quotes, and so that every reader sees
what is there: the usual control characters, the backslash and the quote itself
stand behind a backslash, and any other character that has no printed form of
its own is given by its code point.
-/

namespace TapeMachine.Text

/-- A code point in braces, in the fewest hexadecimal digits. -/
def codePoint (c : Char) : List Char :=
  '\\' :: 'u' :: '{' :: (Nat.toDigits 16 c.toNat ++ ['}'])

/-- How a character is written between two of the given quotes. -/
def escaped (quote c : Char) : List Char :=
  if c = '\x00' then ['\\', '0']
  else if c = '\t' then ['\\', 't']
  else if c = '\r' then ['\\', 'r']
  else if c = '\n' then ['\\', 'n']
  else if c = '\\' then ['\\', '\\']
  else if c = quote then ['\\', quote]
  else if isCombining c || isUnprintable c then codePoint c
  else [c]

/-- A character in single quotes. -/
def quotedChar (c : Char) : String :=
  String.ofList ('\'' :: (escaped '\'' c ++ ['\'']))

/-- A string in double quotes. -/
def quotedString (text : String) : String :=
  String.ofList ('"' :: (text.toList.flatMap (escaped '"') ++ ['"']))

end TapeMachine.Text
