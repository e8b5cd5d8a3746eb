import ItemCatalog.Log.Filter
import ItemCatalog.Text.Split

/-! # Registry: the levels and filters of loggers

Loggers are known by their names; points in a name separate it from the names of the loggers above.
A logger without a level of its own has that of the nearest logger above that has one, in the end
that of the root. A record is said if its logger takes its level and all filters of that logger let
it pass. -/

namespace ItemCatalog.Log

/-- The levels by all their names. -/
def levelWords : List (String × Int) :=
  levelNames.map (fun e => (e.2, e.1)) ++ [("WARN", warning), ("FATAL", critical)]

/-- **The level** that a value stands for: a number, or the name of a level. -/
def levelOf (v : Value) : Except Fault Int :=
  match v with
  | .text s => match levelWords.lookup s with
    | some n => .ok n
    | none => .error (.failure .value ("Unknown level: " ++ Text.quote s))
  | .scalar s => match s.asInt? with
    | some n => .ok n
    | none => .error (.failure .type ("Level not an integer or a valid string: " ++ v.inspect))
  | v => .error (.failure .type ("Level not an integer or a valid string: " ++ v.inspect))

/-- The name up to each of its points, the longest first. -/
def namesAbove (name : String) : List String :=
  let parts := Text.cut '.' name
  (List.range parts.length).reverse.filterMap fun n =>
    if n = 0 then none else some (".".intercalate (parts.take n))

theorem numbered_nil : ∀ e ∈ ([] : List (String × Nat × Filter)), e.2.1 < 0 := nofun

/-- The levels of the loggers that were given one, and filters under numbers, none of which is still
to be given. -/
structure Registry where
  levels : List (String × Int) := [(rootName, info)]
  filters : List (String × Nat × Filter) := []
  made : Nat := 0
  numbered : ∀ e ∈ filters, e.2.1 < made := by exact ItemCatalog.Log.numbered_nil

instance : Inhabited Registry := ⟨{}⟩

namespace Registry

/-- The own level of a logger, zero if it has none. -/
def level (r : Registry) (name : String) : Int :=
  (r.levels.lookup (knownName name)).getD 0

/-- Gives a logger a level. -/
def setLevel (r : Registry) (name : String) (level : Int) : Registry :=
  let name := knownName name
  { r with levels := (name, level) :: r.levels.filter fun e => e.1 != name }

/-- Gives loggers their levels, one after another. -/
def setLevels (r : Registry) (levels : List (String × Int)) : Registry :=
  levels.foldl (fun r e => r.setLevel e.1 e.2) r

/-- The level that counts for a logger. -/
def effectiveLevel (r : Registry) (name : String) : Int :=
  let name := knownName name
  ((name :: namesAbove name ++ [rootName]).findSome? fun n =>
    let level := r.level n
    if level = 0 then none else some level).getD 0

/-- **Whether a logger takes a level.** -/
def isEnabled (r : Registry) (name : String) (level : Int) : Bool :=
  0 < level && r.effectiveLevel name ≤ level

/-- The filters of a logger. -/
def filtersOf (r : Registry) (name : String) : List Filter :=
  (r.filters.filter fun e => e.1 == knownName name).map fun e => e.2.2

/-- Gives a filter to loggers, under a new number. -/
def addFilter (r : Registry) (names : List String) (f : Filter) : Registry :=
  let names := (names.map knownName).eraseDups
  { r with
    filters := r.filters ++ names.map (fun n => (n, r.made, f)), made := r.made + 1
    numbered := fun e he => by
      rcases List.mem_append.mp he with he | he
      · exact Nat.lt_succ_of_lt (r.numbered e he)
      · obtain ⟨n, -, rfl⟩ := List.mem_map.mp he
        exact Nat.lt_succ_self r.made }

/-- Takes the filter of a number from all loggers. -/
def removeFilter (r : Registry) (number : Nat) : Registry :=
  { r with
    filters := r.filters.filter fun e => e.2.1 != number
    numbered := fun e he => r.numbered e (List.mem_filter.mp he).1 }

/-- **What a record with values becomes:** nothing if it is not said, else itself with the values in
the place of its marks. -/
def say (r : Registry) (record : Record) (values : List Value) : Except Fault (List Record) := do
  if !r.isEnabled record.logger record.level then return []
  let message := messageOf record.text values
  let passed ← (r.filtersOf record.logger).allM fun f =>
    f.passes record.logger record.level message
  if !passed then return []
  return [{ record with text := ← message }]

/-- The records without values that are said. -/
def said (r : Registry) (records : List Record) : List Record :=
  records.flatMap fun record => (r.say record []).toOption.getD []

end Registry

end ItemCatalog.Log
