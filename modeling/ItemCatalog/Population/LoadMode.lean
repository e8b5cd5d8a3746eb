import ItemCatalog.Config.Basic
import ItemCatalog.Population.Progress
import ItemCatalog.Population.Settings

/-! # Load modes: one coarse setting for several fine ones

Older configurations choose the behaviour of a pass by one word, in any letter case and with either
separator. The word adjusts the settings once, for whoever comes first; a value that names no mode
is a fault, and so is one that is not written out. -/

namespace ItemCatalog.Population

/-- The coarse modes: the catalog is read again, it is read if nothing is persisted, or nothing but
what is persisted is used. -/
inductive LoadMode where
  | catalogUrl
  | catalogUrlIfNoPersistedState
  | persistedState
deriving DecidableEq, Repr, Inhabited

namespace LoadMode

/-- The modes, in their order. -/
def all : List LoadMode :=
  [.catalogUrl, .catalogUrlIfNoPersistedState, .persistedState]

/-- The word for a mode. -/
def word : LoadMode → String
  | .catalogUrl => "load-catalog-url"
  | .catalogUrlIfNoPersistedState => "load-catalog-url-if-no-persisted-state"
  | .persistedState => "load-persisted-state"

/-- The name of a mode. -/
def name : LoadMode → String
  | .catalogUrl => "LOAD_CATALOG_URL"
  | .catalogUrlIfNoPersistedState => "LOAD_CATALOG_URL_IF_NO_PERSISTED_STATE"
  | .persistedState => "LOAD_PERSISTED_STATE"

/-- The mode of a name. -/
def ofName? (name : String) : Option LoadMode :=
  all.find? fun m => m.name == name

/-- The setting that holds the word. -/
def setting : String := "catalog.load_mode"

/-- A word without blanks around it, in small letters and with one separator. -/
def normalize (s : String) : String :=
  (Text.lower (Text.strip s)).map fun c => if c = '_' then '-' else c

/-- The fault of a value that is no mode. -/
def notAMode (v : Value) : Fault :=
  .configuration (s!"Invalid '{setting}' value " ++ v.inspect ++ "; expected one of " ++
    (Value.list (all.map fun m => .text m.word)).inspect) none

/-- **The mode** that a value names. -/
def coerce (v : Value) : Except Fault LoadMode :=
  if v.isOverlong then .error .overlong
  else match all.find? fun m => m.word == normalize v.display with
    | some m => .ok m
    | none => .error (notAMode v)

/-- **The settings** adjusted for a mode. -/
def adjust (m : LoadMode) (s : Settings) : Settings :=
  match m with
  | .catalogUrl => { s with reset := true }
  | .catalogUrlIfNoPersistedState => s
  | .persistedState => { s with disallowLocal := true }

/-- The warning about a mode that is in use. -/
def warning (m : LoadMode) : Log.Record :=
  Log.initialization.warning ("Legacy catalog load mode " ++ m.name ++ " set: applying, but " ++
    "this should be changed to use the --catalog-initial/--catalog-reset/--catalog-add options")

/-- The settings adjusted for the mode of a configuration, if it names one. -/
def read (config : Config) (s : Settings) : Except Fault (Option Settings) × List Log.Record :=
  match config.get setting with
  | .null => (.ok none, [])
  | v =>
    match coerce v with
    | .error e => (.error e, [])
    | .ok m => (.ok (some (m.adjust s)), [m.warning])

/-- **The settings adjusted** for the mode of a configuration, by the first caller only; later ones
read nothing. -/
def apply (flag : OneShotFlag) (config : Config) (s : Settings) :
    (Except Fault (Option Settings) × List Log.Record) × OneShotFlag :=
  match flag.compareAndSet false true with
  | (true, flag) => (read config s, flag)
  | (false, flag) => ((.ok none, []), flag)

end LoadMode

end ItemCatalog.Population
