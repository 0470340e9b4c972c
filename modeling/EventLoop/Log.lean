/-!
The lines that the components write to the log.

* `LogLine` is a line with its level.
* `LogLine.render` puts the level in front of the text.
-/

namespace EventLoop

/-- How important a log line is. -/
inductive LogLevel where
  | trace
  | debug
  | warn
deriving DecidableEq

/-- The name of a level. -/
def LogLevel.render : LogLevel → String
  | trace => "TRACE"
  | debug => "DEBUG"
  | warn => "WARN"

/-- A line of the log. -/
structure LogLine where
  level : LogLevel
  text : String
deriving DecidableEq

namespace LogLine

/-- A line about a single small event. -/
def trace (text : String) : LogLine := ⟨.trace, text⟩

/-- A line about the life of a component. -/
def debug (text : String) : LogLine := ⟨.debug, text⟩

/-- A line about something that went wrong. -/
def warn (text : String) : LogLine := ⟨.warn, text⟩

/-- The text of a line, its level in front. -/
def render (l : LogLine) : String := s!"{l.level.render} {l.text}"

/-- The warning about a call to a callable that holds nothing. -/
def skippedEmpty : LogLine := warn "skipped an empty BoundedFn"

end LogLine

end EventLoop
