/-!
# Events

What happened on the way to an answer, for those who want to follow it.
-/

namespace ResultBuilder

/-- How detailed an event is. -/
inductive Level where
  | info
  | debug
  | trace
  deriving DecidableEq, Repr

/-- The name of a level. -/
def Level.text : Level → String
  | .info => "info"
  | .debug => "debug"
  | .trace => "trace"

/-- Something that happened, with the values that it is about. -/
structure Event where
  /-- How detailed the event is. -/
  level : Level
  /-- What happened. -/
  message : String
  /-- Names and texts of the values. -/
  fields : List (String × String)
  deriving DecidableEq, Repr

end ResultBuilder
