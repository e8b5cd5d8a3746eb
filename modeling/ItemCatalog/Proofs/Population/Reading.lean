import ItemCatalog.Proofs.Population.Stages

/-! # Reading: what a stage does until its text is there

A stage that reads a source looks for it, asks for the loader, and reads the address. The run lemmas
say what each of these steps gives and what it leaves, the record included: `State.searched` is the
state after the search, `State.withLoader` after asking for the loader, and `State.fetched` after
reading an address. `loadAddress_run` and `loadSource_run` put them together; anything could load
the text in the place of what does. -/

namespace ItemCatalog.Population

open Step

/-! ### The states in between -/

namespace State

variable (s : State)

/-- The search for the source of the initial catalog. -/
def search : Resolution :=
  Source.resolve s.settings s.context.config s.around s.providers (!s.runs.hasRun)

/-- The state after the search. -/
def searched : State :=
  (s.ask s.search.asked).say s.search.log

/-- The state after asking for the loader. -/
def withLoader : State :=
  { s with loader := s.loaderOr.toOption }

/-- The state after reading an address with a loader. -/
def fetched (l : Resource.Loader) (uri : String) : State :=
  { s with trace := { s.trace with
      fetched := s.trace.fetched ++ [uri]
      requests := s.trace.requests ++ (l.fetch s.around uri).requests
      log := s.trace.log ++ (l.fetch s.around uri).log } }

/-- The state after reading a source with a loader. -/
def readSource (l : Resource.Loader) (source : Source) : State :=
  (((s.say (sourceNotes source)).withLoader.say [Load.startNote source.uri]).fetched l source.uri)

@[simp] theorem say_loaderOr (log : List Log.Record) : (s.say log).loaderOr = s.loaderOr := rfl

@[simp] theorem say_read (log : List Log.Record) (l : Resource.Loader) (uri : String) :
    (s.say log).read l uri = s.read l uri := rfl

@[simp] theorem withLoader_read (l : Resource.Loader) (uri : String) :
    s.withLoader.read l uri = s.read l uri := rfl

@[simp] theorem readSource_catalog (l : Resource.Loader) (source : Source) (name : CatalogName) :
    (s.readSource l source).catalog name = s.catalog name := rfl

theorem readSource_log (l : Resource.Loader) (source : Source) :
    (s.readSource l source).trace.log = s.trace.log ++ sourceNotes source ++
      [Load.startNote source.uri] ++ (l.fetch s.around source.uri).log := rfl

end State

/-! ### The steps -/

theorem resolveSource_run (s : State) : resolveSource s = (s.source, s.searched) := by
  unfold resolveSource
  simp only [bind_run, get_run, modify_run, say_run, ofExcept_run]
  rfl

theorem getLoader_run (s : State) : getLoader s = (s.loaderOr, s.withLoader) := by
  unfold getLoader
  rw [bind_run, get_run]
  cases hl : s.loader with
  | some l =>
    have hor : s.loaderOr = .ok l := by rw [State.loaderOr, hl]
    have hstate : s.withLoader = s := by
      unfold State.withLoader
      rw [hor, Except.toOption, ← hl]
    simp only [pure_run, hor, hstate, hl]
  | none =>
    have hor : s.loaderOr = Resource.Loader.ofConfig s.context.config := by
      rw [State.loaderOr, hl]
    unfold State.withLoader
    simp only [hor, hl, bind_run, ofExcept_run]
    cases Resource.Loader.ofConfig s.context.config with
    | error e =>
      rw [Except.toOption, ← hl]
    | ok l => rfl

theorem fetch_run (l : Resource.Loader) (uri : String) (s : State) :
    fetch l uri s = (.ok (s.read l uri), s.fetched l uri) := rfl

/-- What loads a text, or what was found in its place, into a catalog. -/
abbrev Loading :=
  Catalog → String → PopulateMode → Except Fault String →
    Except Fault LoadResult × Catalog × List Log.Record

/-- The load in the wording of the surroundings. -/
def State.loading (s : State) : Loading :=
  fun c uri mode content => loadInitial c uri mode content s.around.wording

/-- The load of an address, with anything in the place of the load of its text. -/
def loadAddressBy (load : Loading) (name : CatalogName) (uri : String) (mode : PopulateMode)
    (l : Resource.Loader) : Step LoadResult := do
  say [Load.startNote uri]
  let content ← fetch l uri
  let (r, c, log) := load ((← get).catalog name) uri mode content
  modify fun s => s.setCatalog name c
  report log
  ofExcept r

theorem loadAddressBy_loading (name : CatalogName) (uri : String) (mode : PopulateMode)
    (l : Resource.Loader) (s : State) :
    loadAddressBy s.loading name uri mode l s = loadAddress name uri mode l s := by
  unfold loadAddressBy loadAddress
  simp only [bind_run, say_run, fetch_run, get_run]
  rfl

/-- **The load of an address** asks the loader once, stores what it loads and reports it. -/
theorem loadAddressBy_run (load : Loading) (name : CatalogName) (uri : String) (mode : PopulateMode)
    (l : Resource.Loader) (s : State) : loadAddressBy load name uri mode l s =
      let loaded := load (s.catalog name) uri mode (s.read l uri)
      ((s.reported loaded.2.2).bind fun _ => loaded.1,
        (((s.say [Load.startNote uri]).fetched l uri).setCatalog name loaded.2.1).afterReport
          loaded.2.2) := by
  have hread : ((s.say [Load.startNote uri]).fetched l uri).catalog name = s.catalog name := rfl
  have hreported : ∀ c log,
      (((s.say [Load.startNote uri]).fetched l uri).setCatalog name c).reported
      log = s.reported log := fun _ _ => rfl
  unfold loadAddressBy
  simp only [bind_run, say_run, fetch_run, get_run, modify_run, report_run, ofExcept_run, hread,
    State.say_read, hreported]
  cases s.reported (load (s.catalog name) uri mode (s.read l uri)).2.2 <;> rfl

theorem loadAddress_run (name : CatalogName) (uri : String) (mode : PopulateMode)
    (l : Resource.Loader) (s : State) : loadAddress name uri mode l s =
      let load := loadInitial (s.catalog name) uri mode (s.read l uri) s.around.wording
      ((s.reported load.2.2).bind fun _ => load.1,
        (((s.say [Load.startNote uri]).fetched l uri).setCatalog name load.2.1).afterReport
          load.2.2) :=
  (loadAddressBy_loading name uri mode l s).symm.trans
    (loadAddressBy_run s.loading name uri mode l s)

theorem loadAddressBy_congr {load load' : Loading} {name : CatalogName} {uri : String}
    {mode : PopulateMode} {l : Resource.Loader} {s : State}
    (h : load (s.catalog name) uri mode (s.read l uri) =
      load' (s.catalog name) uri mode (s.read l uri)) :
    loadAddressBy load name uri mode l s = loadAddressBy load' name uri mode l s := by
  rw [loadAddressBy_run, loadAddressBy_run, h]

/-- **The load of a source:** it ends at once if the console does not take what is said about the
source, or there is no loader. -/
theorem loadSource_run (name : CatalogName) (source : Source) (s : State) :
    loadSource name source s = match s.reported (sourceNotes source), s.loaderOr with
      | .error e, _ => (.error e, s.afterReport (sourceNotes source))
      | .ok _, .error e => (.error e, (s.say (sourceNotes source)).withLoader)
      | .ok _, .ok l =>
        let load := loadInitial (s.catalog name) source.uri source.mode (s.read l source.uri)
          s.around.wording
        ((s.reported load.2.2).bind fun _ => load.1,
          ((s.readSource l source).setCatalog name load.2.1).afterReport load.2.2) := by
  unfold loadSource
  cases hr : s.reported (sourceNotes source) with
  | error e => rw [bind_run, report_run, hr]
  | ok _ =>
    rw [bind_run, report_of_takes (State.reported_eq_ok_iff.mp hr)]
    simp only [bind_run, getLoader_run, State.say_loaderOr]
    cases s.loaderOr with
    | error e => rfl
    | ok l => exact loadAddress_run name source.uri source.mode l _

/-- **The initial load** of a source that was found. -/
theorem populateInitial_run {s : State} {source : Source} (hsource : s.source = .ok (some source))
    (name : CatalogName) : populateInitial name s =
      ((loadSource name source s.searched).1.map some, (loadSource name source s.searched).2) := by
  unfold populateInitial
  rw [bind_run, resolveSource_run, hsource]
  simp only [← map_eq_pure_bind, map_run]

end ItemCatalog.Population
