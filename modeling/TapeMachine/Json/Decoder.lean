import TapeMachine.Description
import TapeMachine.Json.Mismatch

/-!
# Descriptions in documents

A record is an object with a member for each of its fields, in any order and
among others that are passed over, or an array of the fields in their order.  A
document is decoded from front to back, and the first mismatch ends it: a field
given twice is found at its second name, a missing one at the end of the object.
-/

namespace TapeMachine.Json

/-- The text of a string literal. -/
def decodeText (parts : List StringPart) : Except Mismatch String :=
  match text? parts with
  | some text => .ok (String.ofList text)
  | none => .error .meaningless

/-- A string. -/
def decodeString : Value → Except Mismatch String
  | .string parts => decodeText parts
  | value => wrongShape value .text

/-- A string of one character. -/
def decodeChar : Value → Except Mismatch Char
  | .string parts => do
    let text ← decodeText parts
    match text.toList with
    | [c] => return c
    | _ => throw (.notOneCharacter text)
  | value => wrongShape value .character

/-- The movement a string literal names. -/
def decodeDirectionName (parts : List StringPart) : Except Mismatch Direction := do
  let name ← decodeText parts
  match Direction.ofName? name with
  | some direction => return direction
  | none => throw (.unknownDirection name)

/-- A movement: its name, or an object whose one member has that name and no value. -/
def decodeDirection : Value → Except Mismatch Direction
  | .string parts => decodeDirectionName parts
  | .object ((name, value) :: more) => do
    let direction ← decodeDirectionName name
    match value, more with
    | .null, [] => return direction
    | .null, _ => throw .noDirection
    | value, _ => wrongShape value .nothing
  | _ => throw .noDirection

/-- Takes the value of a field given for the first time. -/
def fillField {α : Type} (name : String) (old : Option α) (decode : Value → Except Mismatch α)
    (value : Value) : Except Mismatch (Option α) :=
  match old with
  | some _ => .error (.repeatedField name)
  | none => (decode value).map some

/-- The value of a field that must have been given. -/
def givenField {α : Type} (name : String) : Option α → Except Mismatch α
  | some value => .ok value
  | none => .error (.missingField name)

/-- The first fields of an array, and an error at the first one that is not there. -/
def elementAt (record : Record) (elements : List Value) (index : Nat) : Except Mismatch Value :=
  match elements[index]? with
  | some element => .ok element
  | none => .error (.tooShort index record)

/-- The fields of a transition given so far. -/
structure TransitionDraft where
  state? : Option String := none
  symbol? : Option Symbol := none
  next? : Option String := none
  write? : Option Symbol := none
  direction? : Option Direction := none

/-- Takes one member of an object. -/
def TransitionDraft.put (draft : TransitionDraft) (name : String) (value : Value) :
    Except Mismatch TransitionDraft :=
  if name = "state" then
    (fillField name draft.state? decodeString value).map ({ draft with state? := · })
  else if name = "symbol" then
    (fillField name draft.symbol? decodeChar value).map ({ draft with symbol? := · })
  else if name = "next_state" then
    (fillField name draft.next? decodeString value).map ({ draft with next? := · })
  else if name = "write" then
    (fillField name draft.write? decodeChar value).map ({ draft with write? := · })
  else if name = "direction" then
    (fillField name draft.direction? decodeDirection value).map ({ draft with direction? := · })
  else .ok draft

/-- The transition whose fields were all given. -/
def TransitionDraft.finish (draft : TransitionDraft) : Except Mismatch Transition := do
  let state ← givenField "state" draft.state?
  let symbol ← givenField "symbol" draft.symbol?
  let next ← givenField "next_state" draft.next?
  let write ← givenField "write" draft.write?
  let direction ← givenField "direction" draft.direction?
  return { state, symbol, next, write, direction }

/-- Takes the members of an object in order. -/
def putMembers {δ : Type} (put : δ → String → Value → Except Mismatch δ) (draft : δ) :
    List (List StringPart × Value) → Except Mismatch δ
  | [] => .ok draft
  | (name, value) :: rest => do
    let name ← decodeText name
    let draft ← put draft name value
    putMembers put draft rest

/-- Checks that an array has no more elements than a record has fields. -/
def checkLength {α : Type} (elements : List Value) (made : α) : Except Mismatch α :=
  if elements.length ≤ 5 then .ok made else .error .tooLong

/-- A transition. -/
def decodeTransition : Value → Except Mismatch Transition
  | .object members => do
    let draft ← putMembers TransitionDraft.put {} members
    draft.finish
  | .array elements => do
    let state ← elementAt .transition elements 0 >>= decodeString
    let symbol ← elementAt .transition elements 1 >>= decodeChar
    let next ← elementAt .transition elements 2 >>= decodeString
    let write ← elementAt .transition elements 3 >>= decodeChar
    let direction ← elementAt .transition elements 4 >>= decodeDirection
    checkLength elements { state, symbol, next, write, direction }
  | value => wrongShape value (.record .transition)

/-- The transitions of a machine. -/
def decodeTransitions : Value → Except Mismatch (List Transition)
  | .array elements => elements.mapM decodeTransition
  | value => wrongShape value .sequence

/-- The fields of a description given so far. -/
structure DescriptionDraft where
  start? : Option String := none
  accept? : Option String := none
  reject? : Option String := none
  blank? : Option Symbol := none
  transitions? : Option (List Transition) := none

/-- Takes one member of an object. -/
def DescriptionDraft.put (draft : DescriptionDraft) (name : String) (value : Value) :
    Except Mismatch DescriptionDraft :=
  if name = "start" then
    (fillField name draft.start? decodeString value).map ({ draft with start? := · })
  else if name = "accept" then
    (fillField name draft.accept? decodeString value).map ({ draft with accept? := · })
  else if name = "reject" then
    (fillField name draft.reject? decodeString value).map ({ draft with reject? := · })
  else if name = "blank" then
    (fillField name draft.blank? decodeChar value).map ({ draft with blank? := · })
  else if name = "transitions" then
    (fillField name draft.transitions? decodeTransitions value).map
      ({ draft with transitions? := · })
  else .ok draft

/-- The description whose fields were all given. -/
def DescriptionDraft.finish (draft : DescriptionDraft) : Except Mismatch Description := do
  let start ← givenField "start" draft.start?
  let accept ← givenField "accept" draft.accept?
  let reject ← givenField "reject" draft.reject?
  let blank ← givenField "blank" draft.blank?
  let transitions ← givenField "transitions" draft.transitions?
  return { start, accept, reject, blank, transitions }

/-- A description. -/
def decodeDescription : Value → Except Mismatch Description
  | .object members => do
    let draft ← putMembers DescriptionDraft.put {} members
    draft.finish
  | .array elements => do
    let start ← elementAt .description elements 0 >>= decodeString
    let accept ← elementAt .description elements 1 >>= decodeString
    let reject ← elementAt .description elements 2 >>= decodeString
    let blank ← elementAt .description elements 3 >>= decodeChar
    let transitions ← elementAt .description elements 4 >>= decodeTransitions
    checkLength elements { start, accept, reject, blank, transitions }
  | value => wrongShape value (.record .description)

end TapeMachine.Json
