import ItemCatalog.Fault

/-! # Log records: what the library says while it works

A record has a level, the name of its logger and a text, and may carry a fault. Levels are numbers;
five of them have names. -/

namespace ItemCatalog.Log

/-- The levels with a name, with the names they are written under. -/
def levelNames : List (Int × String) :=
  [(50, "CRITICAL"), (40, "ERROR"), (30, "WARNING"), (20, "INFO"), (10, "DEBUG"), (0, "NOTSET")]

/-- The level of details. -/
def debug : Int := 10

/-- The level of ordinary events. -/
def info : Int := 20

/-- The level of events that may need attention. -/
def warning : Int := 30

/-- The level of failures. -/
def error : Int := 40

/-- The level of failures that end the program. -/
def critical : Int := 50

/-- The name of a level. -/
def levelName (level : Int) : String :=
  (levelNames.lookup level).getD s!"Level {Number.renderInt level}"

/-- The name of the logger above all others. -/
def rootName : String := "root"

/-- The name under which a logger is known; the root may be named by nothing. -/
def knownName (name : String) : String :=
  if name.isEmpty then rootName else name

/-- Something that was said. The inner fault is absent if a record should carry the fault at hand
and there is none. -/
structure Record where
  level : Int
  logger : String
  text : String
  fault : Option (Option Fault) := none
deriving Inhabited

end ItemCatalog.Log
