-- SUMMARY: The events that the program notes while it works.

/-!
# Journal

Functions that note something return the events as data, in the order in which they happen.
-/

namespace HistorySearch

/-- How important an event is. -/
inductive Level
  | debug
  | info
  | warn
  deriving DecidableEq

def Level.name : Level → String
  | debug => "DEBUG"
  | info => "INFO"
  | warn => "WARN"

/-- A message, with named details. -/
structure Event where
  level : Level
  message : String
  details : List (String × String) := []
  deriving DecidableEq

namespace Event

def debug (message : String) : Event :=
  ⟨.debug, message, []⟩

def info (message : String) : Event :=
  ⟨.info, message, []⟩

def warn (message : String) : Event :=
  ⟨.warn, message, []⟩

end Event

end HistorySearch
