/-!
# Events

What the program reports while it works, as values: each event has a level and a message, and an
operation that reports returns its events in order beside its result.
-/

namespace TrickScore

/-- How much an event matters. -/
inductive Level where
  | debug
  | info
  | warn
  deriving DecidableEq

/-- The name of a level. -/
def Level.name : Level → String
  | debug => "DEBUG"
  | info => "INFO"
  | warn => "WARN"

/-- A message at a level. -/
structure Event where
  level : Level
  message : String
  deriving DecidableEq

namespace Event

/-- An event is told, one for debugging only where that is asked for. -/
def isTold (debug : Bool) (event : Event) : Bool :=
  debug || event.level ≠ .debug

/-- What is told of an event: its level and its message. -/
def text (event : Event) : String :=
  event.level.name ++ " " ++ event.message

end Event

/-- A result and the events reported on the way to it. -/
structure Reported (α : Type) where
  result : α
  events : List Event

end TrickScore
