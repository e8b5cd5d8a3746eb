import ItemCatalog.Catalog.Basic
import ItemCatalog.Population.Callback
import ItemCatalog.Population.LoadMode
import ItemCatalog.Population.Source
import ItemCatalog.Resource.Loader

/-! # States: what passes read and change

Catalogs are named by the order in which they were made. A context has a configuration and a slot
for one catalog. An initialization has settings and callbacks, counts its passes and reads addresses
with one loader. What happens is recorded: what was written to the slot, who was told, what was
asked for, and what was said. -/

namespace ItemCatalog.Population

/-- The name of a catalog: its place among those that were made. -/
abbrev CatalogName := Nat

/-- The owner of a catalog: its configuration, whether an initialization fills its slot on demand,
the installed catalog, and the one that someone else is going to install right after the next look
at the slot. -/
structure Context where
  config : Config := {}
  attached : Bool := false
  slot : Option CatalogName := none
  rival : Option CatalogName := none
deriving Inhabited

/-- Something that a callback was told or got: the one of a place was told about a pass, or it asked
for the catalog and got one, or none. -/
inductive Call where
  | told (place : Nat)
  | got (place : Nat) (catalog : Option CatalogName)
deriving DecidableEq, Repr

/-- What happened: what was written to the slot, what callbacks were told and got, which addresses a
loader was asked for and which of them its handlers, how often each provider was asked, and what was
said. -/
structure Trace where
  writes : List (Option CatalogName) := []
  calls : List Call := []
  fetched : List String := []
  requests : List String := []
  asked : List Nat := []
  log : List Log.Record := []
deriving Inhabited

/-- What passes read and change: the catalogs that were made, the context and its surroundings, the
parts of the initialization, the count of passes and whether the load mode was read, and what
happened. -/
structure State where
  catalogs : List Catalog := []
  context : Context := {}
  around : Surroundings := {}
  settings : Settings := {}
  providers : List Provider := []
  callbacks : List Callback := []
  loader : Option Resource.Loader := none
  runs : RunCounter := {}
  modeRead : OneShotFlag := {}
  trace : Trace := {}
deriving Inhabited

namespace State

/-- The catalog of a name. -/
def catalog (s : State) (name : CatalogName) : Catalog :=
  s.catalogs[name]?.getD {}

/-- The state with a catalog changed. -/
def setCatalog (s : State) (name : CatalogName) (c : Catalog) : State :=
  { s with catalogs := s.catalogs.set name c }

/-- The state with one more catalog, and its name. -/
def make (s : State) (c : Catalog) : CatalogName × State :=
  (s.catalogs.length, { s with catalogs := s.catalogs ++ [c] })

/-- The state with something said. -/
def say (s : State) (log : List Log.Record) : State :=
  { s with trace := { s.trace with log := s.trace.log ++ log } }

/-- The state with something recorded that a callback was told or got. -/
def call (s : State) (c : Call) : State :=
  { s with trace := { s.trace with calls := s.trace.calls ++ [c] } }

/-- The slot after a look at it: a rival comes in. -/
def afterLook (s : State) : State :=
  match s.context.rival with
  | none => s
  | some r => { s with context := { s.context with slot := some r, rival := none } }

/-- The state with the slot written. -/
def write (s : State) (name : Option CatalogName) : State :=
  { s with
    context := { s.context with slot := name }
    trace := { s.trace with writes := s.trace.writes ++ [name] } }

/-- The state with one more pass counted. -/
def count (s : State) : State :=
  { s with runs := s.runs.increment }

/-- The counts with one more for each of the first `n` providers. -/
def addAsked (counts : List Nat) (n : Nat) : List Nat :=
  counts.zipIdx.map fun e => if e.2 < n then e.1 + 1 else e.1

/-- The state with the first `n` providers asked once more. -/
def ask (s : State) (n : Nat) : State :=
  { s with trace := { s.trace with asked := addAsked s.trace.asked n } }

/-- The state with one more callback. -/
def register (s : State) (c : Callback) : State :=
  { s with callbacks := s.callbacks ++ [c] }

/-- The state with one more provider. -/
def addProvider (s : State) (p : Provider) : State :=
  { s with
    providers := s.providers ++ [p]
    trace := { s.trace with asked := s.trace.asked ++ [0] } }

end State

/-- A step of a pass: it changes the state and ends with a result or a fault. -/
abbrev Step (α : Type) := ExceptT Fault (StateM State) α

namespace Step

/-- Says details, or something plain, which every console takes. -/
def say (log : List Log.Record) : Step Unit :=
  modify fun s => s.say log

/-- Says something that the console may not take: it ends there, with the fault of the console. -/
def report (log : List Log.Record) : Step Unit := fun s =>
  (s.around.console.said log, s.say (s.around.console.take log).1)

/-- Whether there was a pass. -/
def hasRun : Step Bool := do
  return (← get).runs.hasRun

/-- Looks at the slot. -/
def look : Step (Option CatalogName) := do
  let s ← get
  set s.afterLook
  return s.context.slot

/-- Makes a catalog. -/
def make (c : Catalog) : Step CatalogName :=
  modifyGet fun s => s.make c

/-- A step, with another one in its place if it fails in an ordinary way. What no stage may record
is not caught. -/
def recover (p q : Step Unit) : Step Unit :=
  tryCatch p fun e => if e.isFatal then throw e else q

/-- A step that is counted as a pass, whatever it ends with. -/
def counted {α : Type} (p : Step α) : Step α :=
  fun s => let (r, t) := p s; (r, t.count)

end Step

end ItemCatalog.Population
