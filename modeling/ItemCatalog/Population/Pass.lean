import ItemCatalog.Population.Load
import ItemCatalog.Population.State

/-! # Passes: how a catalog is populated

A pass applies the load mode, resets the catalog if items for that are given, loads the initial
catalog, adds items and tells the callbacks, in this order. A failure of the initial load is
recorded and said, any other ends the pass, and so does a warning that the console does not take;
the pass is counted in either case. A catalog is
installed in one step that looks at the slot and decides: in an empty slot it goes, and in the place
of another one only if it is preferred. -/

namespace ItemCatalog.Population

open Step

/-! ### Installing -/

/-- What is written to a slot that held `previous`, to install a catalog. -/
def installWrites {α : Type} (previous : Option α) (new : α) (preferNew : Bool) :
    List (Option α) :=
  match previous with
  | none => [some new]
  | some _ => if preferNew then [none, some new] else []

/-- The warning that a catalog was there already, unless it is blank. -/
def alreadyNote (message : Option String) : List Log.Record :=
  match message with
  | some m => if Text.allBlank m then [] else [Log.initialization.warning m]
  | none => []

/-- **Installs a catalog** and gives the one that was there before. -/
def install (new : CatalogName) (message : Option String) (preferNew : Bool) :
    Step (Option CatalogName) := do
  let previous ← look
  modify fun s => (installWrites previous new preferNew).foldl State.write s
  if previous.isSome then report (alreadyNote message)
  return previous

/-! ### The stages -/

/-- Applies the load mode of the configuration, the first time only. -/
def applyLoadMode : Step Unit := do
  let s ← get
  let ((r, log), flag) := LoadMode.apply s.modeRead s.context.config s.settings
  set { s with modeRead := flag }
  say log
  match ← ofExcept r with
  | some settings => modify fun s => { s with settings }
  | none => return

/-- Replaces the items of a catalog, once all of the new ones are there. -/
def resetTo (name : CatalogName) (items : Catalog.Handover) : Step Unit := do
  let c := Catalog.ofItems (← ofExcept items.toExcept)
  modify fun s => (s.setCatalog name c).say [c.resetNote]

/-- The loader, which is made from the configuration if there is none. -/
def getLoader : Step Resource.Loader := do
  let s ← get
  match s.loader with
  | some l => return l
  | none =>
    let l ← ofExcept (Resource.Loader.ofConfig s.context.config)
    modify fun s => { s with loader := some l }
    return l

/-- Reads an address: the text, or why there is none. -/
def fetch (l : Resource.Loader) (uri : String) : Step (Except Fault String) := do
  let f := l.fetch (← get).around uri
  modify fun s =>
    { s with trace := { s.trace with
        fetched := s.trace.fetched ++ [uri], requests := s.trace.requests ++ f.requests } }
  say f.log
  return f.result

/-- Looks for the source of the initial catalog. -/
def resolveSource : Step (Option Source) := do
  let s ← get
  let r := Source.resolve s.settings s.context.config s.around s.providers (!s.runs.hasRun)
  modify fun s => s.ask r.asked
  say r.log
  ofExcept r.result

/-- The note that there is no source. -/
def noSourceNote : Log.Record :=
  Log.initialization.debug "No initial catalog source found; catalog starts empty"

/-- What is said about a source. -/
def sourceNotes (s : Source) : List Log.Record :=
  (if s.deprecated then
    [Log.initialization.warning
      (s!"Reading initial catalog from deprecated legacy XML at {s.uri}; " ++
      "convert it to the YAML catalog.bom format")]
  else []) ++
    [Log.initialization.debug (s!"Initial catalog source: {s.origin} (" ++ s.mode.word ++ ")")]

/-- Loads the text of an address into a catalog. -/
def loadAddress (name : CatalogName) (uri : String) (mode : PopulateMode) (l : Resource.Loader) :
    Step LoadResult := do
  say [Load.startNote uri]
  let content ← fetch l uri
  let s ← get
  let (r, c, log) := loadInitial (s.catalog name) uri mode content s.around.wording
  modify fun s => s.setCatalog name c
  report log
  ofExcept r

/-- Loads a source into a catalog. -/
def loadSource (name : CatalogName) (source : Source) : Step LoadResult := do
  report (sourceNotes source)
  loadAddress name source.uri source.mode (← getLoader)

/-- **The initial load:** nothing if there is no source. -/
def populateInitial (name : CatalogName) : Step (Option LoadResult) := do
  match ← resolveSource with
  | some source => return some (← loadSource name source)
  | none =>
    if !(← get).settings.disallowLocal then say [noSourceNote]
    return none

/-- The warning about additions that are left out. -/
def additionsNote : Log.Record :=
  Log.initialization.warning
    "Catalog additions supplied but not supported in disallow-local mode; ignoring."

/-- The note about additions to come. -/
def addingNote (uri : String) (force : Bool) : Log.Record :=
  Log.initialization.debug
    (s!"Adding to catalog from {uri} (force: " ++ (Scalar.bool force).display ++ ")")

/-- The note about additions that were made. -/
def addedNote (uri : String) (items : List Item) (hasRun : Bool) : Log.Record :=
  Log.initialization.debug (s!"Added to catalog from {uri}: " ++
    if hasRun then s!"count {items.length}"
    else (Value.list (items.map fun i => .text i.id)).inspect)

/-- Adds the items of an address to a catalog. -/
def addFrom (name : CatalogName) (uri : String) : Step (List Item) := do
  let force := (← get).settings.force
  if !(← hasRun) then say [addingNote uri force]
  let text ← ofExcept (← fetch (← getLoader) uri)
  let s ← get
  let (r, c) := (s.catalog name).addItems text force (some uri) s.around.wording
  modify fun s => s.setCatalog name c
  let items ← ofExcept r
  say [addedNote uri items (← hasRun)]
  return items

/-- **The additions:** nothing if there are none or no source may be read. -/
def populateAdditions (name : CatalogName) : Step (Option (List Item)) := do
  let s ← get
  match s.settings.additionsUri.filter fun uri => !Text.allBlank uri with
  | none => return none
  | some uri =>
    if s.settings.disallowLocal then
      if !s.runs.hasRun then say [additionsNote]
      return none
    else return some (← addFrom name uri)

/-! ### Callbacks -/

/-- The passes that a callback can start: one populates the catalog, the other asks for it, and
populates one if there is none. -/
structure Inner where
  populate : Step Unit
  ask : Step (Option CatalogName)

/-- The fault of a callback that needs a catalog where there is none. -/
def noCatalogFault : Fault :=
  .failure .attribute "'NoneType' object has no attribute 'add_item'"

/-- Adds an item to the installed catalog. -/
def addToInstalled (item : Item) : Step Unit := do
  match ← look with
  | none => throw noCatalogFault
  | some name =>
    let (r, c) := ((← get).catalog name).addItem item false
    modify fun s => s.setCatalog name c
    discard (ofExcept r)

/-- Takes the action of the callback of a place, whatever its times. -/
def act (inner : Inner) (place : Nat) : Callback → Step Unit
  | .quiet => return
  | .fails e => throw e
  | .populates _ => inner.populate
  | .asks _ => do
    let name ← inner.ask
    modify fun s => s.call (.got place name)
  | .clears _ => modify fun s => s.write none
  | .adds item _ => addToInstalled item
  | .registers other _ => modify fun s => s.register other
  | .both c d => do
    act inner place c
    act inner place d
  | .recovers c d => recover (act inner place c) (act inner place d)
  | .turns 0 _ d => act inner place d
  | .turns (_ + 1) c _ => act inner place c

/-- Tells the callback of a place about a pass. -/
def tell (inner : Inner) (place : Nat) (c : Callback) : Step Unit := do
  modify fun s => s.call (.told place)
  modify fun s => { s with callbacks := s.callbacks.set place c.turn.2 }
  act inner place c.turn.1

/-- Tells the callbacks from a place on, at most `count` of them. -/
def tellFrom (inner : Inner) : Nat → Nat → Step Unit
  | 0, _ => return
  | count + 1, place => do
    match (← get).callbacks[place]? with
    | none => return
    | some c =>
      tell inner place c
      tellFrom inner count (place + 1)

/-- **Tells the callbacks** about a pass, in their order, also those that are added meanwhile. -/
def tellAll (inner : Inner) : Step Unit := do
  let s ← get
  tellFrom inner (s.callbacks.length + totalWeight s.callbacks) 0

/-! ### Passes -/

/-- The stages of a pass on a catalog. -/
def stages (inner : Inner) (name : CatalogName) (needsInitial : Bool)
    (items : Option Catalog.Handover) : Step Unit := do
  applyLoadMode
  match items with
  | some items => resetTo name items
  | none => pure ()
  if needsInitial then discard (populateInitial name)
  discard (populateAdditions name)
  tellAll inner

/-- The warning that a context has no catalog after a pass. -/
def recreateNote : Log.Record :=
  Log.initialization.warning
    "Odd: catalog initialization has run but the runtime context has no catalog; re-creating"

/-- The warning that a context has a catalog before the first pass. -/
def repopulateNote : Log.Record :=
  Log.initialization.warning
    "Odd: catalog initialization has not run but the runtime context has a catalog; re-populating"

/-- The warning that a catalog is replaced. -/
def replacingMessage : String :=
  "Replacing catalog with newly populated catalog"

/-- The catalog to populate: the installed one, or a new one that is installed. -/
def target : Step CatalogName := do
  match ← look with
  | none =>
    if ← hasRun then say [recreateNote]
    let name ← make {}
    discard (install name (some replacingMessage) true)
    return name
  | some name =>
    if !(← hasRun) then say [repopulateNote]
    return name

/-- **A pass** on the catalog of the context. -/
def populateCatalog (inner : Inner) (needsInitial : Bool) (items : Option Catalog.Handover) :
    Step CatalogName :=
  counted do
    let name ← target
    stages inner name needsInitial items
    return name

/-- The warning that someone else installed a catalog. -/
def revertingMessage : String :=
  "Request to make local catalog early, but someone else has created it, reverting to that"

/-- **The installed catalog;** if there is none, a new one is installed and populated, unless
someone else installs one first. -/
def bestEffort (inner : Inner) : Step (Option CatalogName) := do
  match ← look with
  | some name => return some name
  | none =>
    let name ← make {}
    let previous ← install name (some revertingMessage) false
    if previous.isNone then counted (stages inner name true none)
    look

/-- The fault of a context that has no catalog and cannot get one. -/
def unavailable : Fault :=
  .unavailable "Runtime context has no catalog and no catalog initialization attached"

/-- **The catalog of the context,** populated by its initialization if there is none. -/
def getCatalog (inner : Inner) : Step (Option CatalogName) := do
  match ← look with
  | some name => return some name
  | none => if (← get).context.attached then bestEffort inner else throw unavailable

/-- A step on the installed catalog, if there is one. -/
def onInstalled {α : Type} (p : CatalogName → Step α) : Step (Option α) := do
  match ← look with
  | some name => return some (← p name)
  | none => return none

/-! ### Nesting -/

/-- The fault of passes that are nested too deep. -/
def tooDeep : Fault :=
  .failure .depth "maximum recursion depth exceeded"

/-- The passes that can be started by callbacks, nested at most `depth` deep. -/
def passes : Nat → Inner
  | 0 => ⟨throw tooDeep, throw tooDeep⟩
  | depth + 1 =>
    let inner := passes depth
    ⟨discard (populateCatalog inner true none), getCatalog inner⟩

/-- Runs a step with passes that nest as deep as the callbacks can make them. -/
def nested {α : Type} (p : Inner → Step α) : Step α := do
  p (passes (totalWeight (← get).callbacks))

end ItemCatalog.Population
