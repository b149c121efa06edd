import Stencil.Journal.Noted
import Stencil.Journal.Placeholder

/-!
# Messages

A message is uttered at a level with one value, which is its text, or with further values, and then the
first one is a template for them. A silenced message does nothing at all. If the text cannot be made, or
cannot be delivered, the fault goes to the error output, unless it is one that escapes, and nothing else
happens.
-/

namespace Stencil

/-- A message that is to be uttered; `undeliverable` is the reason why it cannot be delivered. -/
structure Message where
  level : Level
  values : List Value
  names : Fields := []
  undeliverable : Option String := none

namespace Message

/-- The complaint about a message without any value. -/
def missingText : Level → String
  | .debug => "Logger.debug() missing 1 required positional argument: '_Logger__message'"
  | .warning => "Logger.warning() missing 1 required positional argument: '_Logger__message'"

def text (message : Message) : Except Fault String :=
  match message.values, message.names with
  | [], _ => throw (.raised .wrongType (missingText message.level))
  | [value], [] => value.toText
  | .text template :: places, names => do
      let (shown, _) ← MessageValues.fill ⟨places, names⟩ 2 .unused template.toList
      return String.ofList shown
  | value :: _, _ => do
      let _ ← value.toText
      throw (.raised .missingAttribute
        ("'" ++ value.fullTypeName ++ "' object has no attribute 'format'"))

/-- Delivers a text, or fails to. -/
def deliver (message : Message) (text : String) : Except Fault String :=
  match message.undeliverable with
  | none => pure text
  | some reason => throw (.raised (.other "delivery") reason)

/-- Utters a message; the answer is what goes to the error output. -/
def utter (message : Message) : Noted String :=
  ⟨fun voice =>
    if voice.utters message.level then
      match message.text >>= message.deliver with
      | .ok text => ⟨[.message message.level text], .ok ""⟩
      | .error fault => ⟨[], (fun reason => "Logging error: " ++ reason ++ "\n") <$> fault.caught⟩
    else ⟨[], .ok ""⟩⟩

end Message

end Stencil
