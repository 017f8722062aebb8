import TapeMachine.Error
import TapeMachine.Json.Decoder
import TapeMachine.Json.Encoder
import TapeMachine.Json.Printer
import TapeMachine.Json.Reader
import TapeMachine.Json.Strict

/-!
# Descriptions as JSON texts

Writing never fails.  Reading passes over members it does not know, and asks of
their values only that they follow the grammar.  Where a document does not
describe a machine its mismatch is reported if the whole document is strict;
otherwise the text counts as no document at all.
-/

namespace TapeMachine.Description

/-- The description as a JSON text. -/
def toJson (description : Description) : String :=
  String.ofList ((Json.encodeDescription description).print 0)

/-- The description a JSON text holds. -/
def ofJson (text : String) : Except MachineError Description :=
  match Json.Value.read? text.toList with
  | none => .error .notJson
  | some value =>
    match Json.decodeDescription value with
    | .ok description => .ok description
    | .error mismatch =>
      .error (if value.isStrict then .invalid (.mismatch mismatch) else .notJson)

end TapeMachine.Description
