/-! # Settings: what a population pass does

Settings say where the catalog comes from and how additions are applied. They are values: whoever
changes them makes new ones. -/

namespace ItemCatalog.Population

/-- What a population pass does: the address of the initial catalog, which goes before every other
source, whether a reset of persisted items was asked for, the address of additions, whether these
replace items that are there, and whether no source is read at all. -/
structure Settings where
  initialUri : Option String := none
  reset : Bool := false
  additionsUri : Option String := none
  force : Bool := false
  disallowLocal : Bool := false
deriving DecidableEq, Repr, Inhabited

end ItemCatalog.Population
