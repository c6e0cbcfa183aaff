import FeatureCert.Log.Template

/-!
Events of the log, whose texts may be any code points, and drafts of them, the message still being a template
with its arguments.
-/
namespace FeatureCert.Log

open FeatureCert.Text

structure Event where
  /-- Name of the event's level, which any text may be. -/
  levelName : Points
  logger : Points
  message : Points
  /-- When the event was, in seconds. -/
  created : Value
  /-- Text of an error that the event reports. -/
  failure : Option Points

namespace Event

def line (e : Event) (timestamp : Points) : String :=
  jsonLineOf timestamp e.levelName e.logger e.message e.failure

/-- The JSON line of an event, if its time can be written. -/
def jsonLine (e : Event) : Except LineFault String := do
  let timestamp ← timestampOf e.created
  return e.line timestamp

end Event

/-- An event as a program hands it to the log. -/
structure Draft where
  levelName : String
  logger : String
  template : String
  arguments : List Value
  created : Value
  failure : Option String

namespace Draft

/-- Message of a draft, its arguments put in. -/
def text (d : Draft) : Except LineFault String := message d.template d.arguments

/-- The event of a draft with a message. -/
def event (d : Draft) (message : String) : Event :=
  ⟨d.levelName, d.logger, message, d.created, d.failure.map Points.ofString⟩

/-- The JSON line of a draft. A time that cannot be written is found before the message is put together. -/
def jsonLine (d : Draft) : Except LineFault String := do
  let timestamp ← timestampOf d.created
  let message ← d.text
  return (d.event message).line timestamp

end Draft
end FeatureCert.Log
