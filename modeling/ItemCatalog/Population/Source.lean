import ItemCatalog.Config.Basic
import ItemCatalog.Population.Settings
import ItemCatalog.Surroundings

/-! # Sources: where the initial catalog is read from

At most one source is chosen, the first of these that there is: the address that the settings name,
the one that the configuration names, a structured file in the base directory, a legacy file there,
and what fallback providers offer, in their order. A provider that fails is noted and passed over,
unless the console does not take the note. If no source may be read at all, none is looked for. -/

namespace ItemCatalog.Population

open Files

/-- The forms of text that a load may try. -/
inductive PopulateMode where
  | yaml
  | xml
  | autodetect
deriving DecidableEq, Repr, Inhabited

/-- The word for a mode. -/
def PopulateMode.word : PopulateMode → String
  | .yaml => "yaml"
  | .xml => "xml"
  | .autodetect => "autodetect"

/-- Whether a structured text may be tried. -/
def PopulateMode.allowsYaml (m : PopulateMode) : Bool :=
  m = .yaml || m = .autodetect

/-- Whether a legacy document may be tried. -/
def PopulateMode.allowsXml (m : PopulateMode) : Bool :=
  m = .xml || m = .autodetect

/-- Where the initial catalog is read from, in which forms, who named it, and whether it should no
longer be used. -/
structure Source where
  uri : String
  mode : PopulateMode
  origin : String
  deprecated : Bool := false
deriving DecidableEq, Repr, Inhabited

/-- A provider of sources, by how it is shown and what it answers when it is asked. -/
structure Provider where
  label : String
  answer : Except Fault (Option Source)
deriving Inhabited

/-- What became of the search for a source: the source, if there is one, or the fault that ended the
search, how many providers were asked, from the first on, and what was said. -/
structure Resolution where
  result : Except Fault (Option Source)
  asked : Nat := 0
  log : List Log.Record := []
deriving Inhabited

namespace Source

/-! ### Named sources -/

/-- The setting that names a source. -/
def urlSetting : String := "catalog.url"

/-- The source of the settings. -/
def ofSettings? (s : Settings) : Option Source :=
  (s.initialUri.filter (· ≠ "")).map fun uri => ⟨uri, .autodetect, "initial catalog URI", false⟩

/-- The source of the configuration: a text that is not blank. -/
def ofConfig? (c : Config) : Option Source :=
  match c.get urlSetting with
  | .text s =>
    if Text.allBlank s then none
    else some ⟨Text.strip s, .autodetect, s!"'{urlSetting}' setting", false⟩
  | _ => none

/-! ### Local sources -/

/-- The setting that names the base directory. -/
def baseSetting : String := "runtime.base_dir"

/-- The base directory if none is named. -/
def defaultBase : String := "~/.catalog_bootstrap"

/-- The text that names the base directory. -/
def baseText (c : Config) : String :=
  let named := c.get baseSetting
  if named.isTruthy then named.display else defaultBase

/-- **The base directory.** -/
def baseDirectory (c : Config) (around : Surroundings) : Except Fault Path :=
  let p := Path.ofText (baseText c)
  if (c.get baseSetting).isOverlong then .error .overlong
  else match p.expandHome? around.home with
    | some base => .ok base
    | none => .error (noHomeFault p)

/-- The source of the file of a name in a directory, if there is one. -/
def ofFile? (around : Surroundings) (base : Path) (name : String) (mode : PopulateMode)
    (deprecated : Bool) : Option Source :=
  let p := base.child name
  if around.isFile p then
    some ⟨(around.resolve p).toUri, mode, "local " ++ name, deprecated⟩
  else none

/-- The source of a file in the base directory. -/
def local? (around : Surroundings) (base : Path) : Option Source :=
  (ofFile? around base "catalog.bom" .yaml false).or (ofFile? around base "catalog.xml" .xml true)

/-! ### Fallback sources -/

/-- The warning about a provider that failed. -/
def failedNote (p : Provider) (e : Fault) : Log.Record :=
  Log.initialization.warning (s!"Fallback catalog source provider {p.label} failed: " ++ e.message)

/-- The first source that providers offer. -/
def offered (console : Log.Console) : List Provider → Resolution
  | [] => { result := .ok none }
  | p :: rest =>
    match p.answer with
    | .ok (some s) => { result := .ok (some s), asked := 1 }
    | .ok none =>
      let r := offered console rest
      { r with asked := r.asked + 1 }
    | .error e =>
      if e.isFatal then { result := .error e, asked := 1 }
      else match console.refusal? (failedNote p e) with
        | some refusal => { result := .error refusal, asked := 1 }
        | none =>
          let r := offered console rest
          { r with asked := r.asked + 1, log := failedNote p e :: r.log }

/-! ### The search -/

/-- The note that no source is read. -/
def disallowedNote : Log.Record :=
  Log.initialization.debug "Initial catalog not being read with disallow-local mode set."

/-- The source of the surroundings: of the configuration, a file or a provider. -/
def found (c : Config) (around : Surroundings) (providers : List Provider) : Resolution :=
  match ofConfig? c with
  | some s => { result := .ok (some s) }
  | none =>
    match baseDirectory c around with
    | .error e => { result := .error e }
    | .ok base =>
      match local? around base with
      | some s => { result := .ok (some s) }
      | none => offered around.console providers

/-- **The source** of the initial catalog. -/
def resolve (s : Settings) (c : Config) (around : Surroundings) (providers : List Provider)
    (firstPass : Bool) : Resolution :=
  if s.disallowLocal then
    { result := .ok none, log := if firstPass then [disallowedNote] else [] }
  else match ofSettings? s with
    | some source => { result := .ok (some source) }
    | none => found c around providers

end Source

end ItemCatalog.Population
