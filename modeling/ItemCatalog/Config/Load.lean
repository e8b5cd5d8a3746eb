import ItemCatalog.Config.Basic
import ItemCatalog.Surroundings
import ItemCatalog.Yaml.Load

/-! # Loading: from a file to a configuration

A file with settings is a structured text with one mapping. Before it is read, the variables of the
environment file in the working directory are taken over, and they stay even if the file cannot be
read. Without a path the file in the working directory is meant. What is said on the way may be too
much for the console, and ends the loading then. -/

namespace ItemCatalog.Config

open Files

/-- Work in the surroundings, which may fail, and may speak. -/
abbrev Work (α : Type) := ExceptT Fault (StateM (Surroundings × List Log.Record)) α

/-- Gives what is made while something is noted: it is lost if the console does not take a note. -/
def noting {α : Type} (noted : α × List Log.Record) : Work α := fun (around, log) =>
  let (made, said) := around.console.noting noted
  (made, around, log ++ said)

/-- Says something: it ends there, with the fault of the console, if that does not take it. -/
def say (log : List Log.Record) : Work Unit :=
  noting ((), log)

/-- The surroundings as they are. -/
def look : Work Surroundings :=
  Prod.fst <$> MonadState.get

/-- The variable that names the file with the default settings. -/
def fileVariable : String := "CONFIG_FILE"

/-! ### The environment file -/

/-- The text of the environment file: nothing if a directory is in its place. -/
def envFileText (s : Surroundings) (p : Path) : Except Fault String :=
  if s.isFile p then s.readText (.utf8 false) p else .ok ""

/-- Takes over the variables of the environment file in the working directory. -/
def takeEnvFile : Work Unit := do
  let s ← look
  let p := s.here.child ".env"
  if s.isThere p then
    let text ← envFileText s p
    modify fun (s, log) => ({ s with environment := withEnvFile s.environment text }, log)
    say [Log.config Log.debug s!"Loaded .env file from {p.render}"]

/-! ### The settings -/

/-- Ends with a fault that is also said. -/
def refuse {α : Type} (message : String) (cause : Option Fault) : Work α := do
  say [Log.config Log.error message]
  throw (.configuration message cause)

/-- The settings of a structured text. -/
def readSettings (p : Path) (text : String) : Work Entries := do
  let words := (← look).wording.structured (some p.render) text
  match Yaml.load text with
  | .error .malformed =>
    refuse ("Error parsing YAML configuration: " ++ words) (some (.ofYaml words .malformed))
  | .error e => throw (.ofYaml words e)
  | .ok .null =>
    say [Log.config Log.warning s!"Configuration file is empty: {p.render}"]
    return []
  | .ok v =>
    match v.asMap? with
    | some entries => return entries
    | none => refuse s!"Configuration file must contain a dictionary/mapping: {p.render}" none

/-- The fault of settings that contain themselves, which can never be filled. -/
def endless : Fault :=
  .failure .depth "maximum recursion depth exceeded"

/-- The wording of a working directory without a file of settings. -/
def noFileMessage (here : Path) : String :=
  "No " ++ fileName ++ " found in current directory: " ++ here.render ++
    "\n\nRun from a directory containing " ++ fileName ++ ", pass --config,\nor set " ++
    fileVariable ++ " environment variable to point to your config file."

/-- The file to read: the one of the path, or else the one in the working directory. -/
def chooseFile (s : Surroundings) : Option String → Except Fault Path
  | some path => .ok (.ofText path)
  | none =>
    let p := s.here.child fileName
    if s.isThere p then .ok p else .error (.failure .fileMissing (noFileMessage s.here))

/-- **Loads the configuration** of a file. -/
def load (path : Option String) : Work Config := do
  takeEnvFile
  let s ← look
  let p ← chooseFile s path
  let text ← s.readText (.utf8 false) p
  let written ← readSettings p text
  if (Value.map written).hasKnot then throw endless
  let config ← noting (ofEntries s.environment (some p) written)
  say [Log.config Log.info s!"Loaded configuration from {p.render}"]
  return config

end ItemCatalog.Config
