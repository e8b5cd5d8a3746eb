import ItemCatalog.Log.Registry

/-! # Scopes: changes to loggers for a while

Entering a scope gives loggers a filter or another level; leaving it takes the filter away, or gives
the levels back that the loggers had before, whatever happened in between. -/

namespace ItemCatalog.Log

/-- What leaving a scope undoes: a filter, by its number, or levels, with those of before. -/
inductive Scope where
  | filter (number : Nat)
  | levels (before : List (String × Int))
deriving Repr, Inhabited

namespace Scope

/-- Keeps back records of loggers at levels, of which a pattern finds the message. -/
def suppress (r : Registry) (names : List String) (levels : List Int) (patterns : List String) :
    Except Fault (Filter × Scope × Registry) := do
  let f ← Filter.make names levels patterns
  return (f, .filter r.made, r.addFilter names f)

/-- **Gives loggers a level;** the scope holds the levels of before. -/
def changeLevel (r : Registry) (names : List String) (level : Int) : Scope × Registry :=
  let before := names.eraseDups.map fun n => (n, r.level n)
  (.levels before, r.setLevels (names.map fun n => (n, level)))

/-- Gives loggers a level that a value stands for. -/
def changeLevelTo (r : Registry) (names : List String) (level : Value) :
    Except Fault (Scope × Registry) :=
  if names.isEmpty then .ok (.levels [], r)
  else return changeLevel r names (← levelOf level)

/-- Hides details and ordinary events of loggers. -/
def quiet (r : Registry) (names : List String) : Scope × Registry :=
  changeLevel r names warning

/-- The levels that loggers had before a scope. -/
def before : Scope → List (String × Int)
  | .filter _ => []
  | .levels before => before

/-- **Leaves a scope.** -/
def leave (r : Registry) : Scope → Registry
  | .filter number => r.removeFilter number
  | .levels before => r.setLevels before

end Scope

end ItemCatalog.Log
