import ItemCatalog.Files.Path
import ItemCatalog.Config.Placeholder

/-! # Configurations: settings under dotted paths

A configuration holds its settings twice: as they were written, and with their placeholders filled.
A setting is looked up by a path of keys with dots between them, one mapping at a time. -/

namespace ItemCatalog

/-- A configuration: the file that it was read from, its settings as they were written, and with
their placeholders filled. -/
structure Config where
  path : Option Files.Path := none
  written : Entries := []
  settings : Entries := []
deriving Inhabited

namespace Config

/-- The configuration of settings, and what is noted while they are filled. -/
def ofEntries (env : Environment) (path : Option Files.Path) (written : Entries) :
    Config × List Log.Record :=
  let (settings, log) := expandEntries env written
  (⟨path, written, settings⟩, log)

/-- The value that keys lead to, one mapping at a time. -/
def follow : List String → Value → Option Value
  | [], v => some v
  | key :: keys, v =>
    match v.asMap? with
    | some entries =>
      match entries.get? key with
      | some w => follow keys w
      | none => none
    | none => none

/-- **The setting** under a dotted path. -/
def get? (c : Config) (path : String) : Option Value :=
  follow (Text.cut '.' path) (.map c.settings)

/-- The setting under a dotted path, or a default. -/
def get (c : Config) (path : String) (default : Value := .null) : Value :=
  (c.get? path).getD default

/-- The name of the file in the working directory that holds the settings. -/
def fileName : String := "config.yml"

/-- The fault of a setting that has to be given. -/
def missingSetting (path : String) : Fault :=
  .configuration
    (s!"Missing required configuration: '{path}' must be explicitly set in " ++ fileName ++ ".")
    none

/-- The setting under a dotted path, null if there is none; a fault if it has to be given. -/
def getRaw (c : Config) (path : String) (required : Bool) : Except Fault Value :=
  match c.get path, required with
  | .null, true => .error (missingSetting path)
  | v, _ => .ok v

/-- The configuration with a value put under a key of its settings. -/
def assign (c : Config) (key : String) (value : Value) : Config :=
  { c with settings := c.settings.put (.text key) value }

end Config

end ItemCatalog
