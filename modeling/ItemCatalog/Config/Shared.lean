import ItemCatalog.Config.Load

/-! # Shared configurations: read once

Configurations that were read are kept: one under each path that was asked for, whatever way the
path is written, and one as the default. The default is the one that a call made so, or else it is
read from the file that the environment names, or from the one in the working directory. A call that
fails keeps nothing, so the next one tries again. -/

namespace ItemCatalog.Config

open Files

/-- The configurations that were ever made, in that order, the place of the default, and the places
of those that were asked for by a path. -/
structure Shared where
  made : List Config := []
  default : Option Nat := none
  byPath : List (Path × Nat) := []
deriving Inhabited

/-- Work that also reads and changes what is kept. -/
abbrev SharedWork (α : Type) :=
  ExceptT Fault (StateM (Shared × Surroundings × List Log.Record)) α

namespace Shared

/-- Work in the surroundings alone. -/
def lift {α : Type} (w : Work α) : SharedWork α :=
  fun s => let (r, t) := w s.2; (r, s.1, t)

/-- Changes what is kept. -/
def change (f : Shared → Shared) : SharedWork Unit :=
  modify fun s => (f s.1, s.2)

/-- The configuration at a place. -/
def at? (s : Shared) (i : Nat) : Option Config :=
  s.made[i]?

/-- Adds a configuration, and gives its place. -/
def add (c : Config) : SharedWork Nat := do
  let (s, _) ← MonadState.get
  change fun s => { s with made := s.made ++ [c] }
  return s.made.length

/-- Reads a configuration, and gives its place. -/
def read (path : Option String) : SharedWork Nat := do
  add (← lift (load path))

/-- The place of the default, which is read if there is none. -/
def defaultPlace : SharedWork Nat := do
  let (s, around, _) ← MonadState.get
  match s.default with
  | some i => return i
  | none =>
    let i ← read ((around.environment.get? fileVariable).filter (· ≠ ""))
    change fun s => { s with default := some i }
    lift (say [Log.config Log.info "Initialized default configuration system"])
    return i

/-- The place of the configuration of a path, which is read if it is not kept. -/
def pathPlace (p : Path) : SharedWork Nat := do
  let (s, _) ← MonadState.get
  match s.byPath.lookup p with
  | some i => return i
  | none =>
    lift (say [Log.config Log.info s!"Loading configuration from explicit path: {p.render}"])
    let i ← read (some p.render)
    change fun s => { s with byPath := s.byPath ++ [(p, i)] }
    return i

/-- The fault of a path with the character that ends all paths, which leads nowhere. -/
def endedPath : Fault :=
  .failure .value "lstat: embedded null character in path"

/-- **The place of a shared configuration:** the default, or the one of a path, which can be made
the default. -/
def place (path : Option String) (asDefault : Bool := false) : SharedWork Nat := do
  match path with
  | none => defaultPlace
  | some path =>
    if path.toList.contains '\x00' then throw endedPath
    let (_, around, _) ← MonadState.get
    let p := around.resolve (.ofText path)
    let i ← pathPlace p
    if asDefault then
      change fun s => { s with default := some i }
      lift (say [Log.config Log.debug s!"Set explicit config as default: {p.render}"])
    return i

/-- A shared configuration. -/
def config (path : Option String) (asDefault : Bool := false) : SharedWork Config := do
  let i ← place path asDefault
  let (s, _) ← MonadState.get
  return (s.at? i).getD {}

/-- **A setting** of a shared configuration; the path of the setting may not be empty. -/
def setting (path : String) (default : Value) (file : Option String) : SharedWork Value := do
  if path.isEmpty then
    throw (.failure .value "Configuration path cannot be empty or None")
  return (← config file).get path default

/-- Keeps nothing any longer. -/
def forget : SharedWork Unit :=
  change fun s => { s with default := none, byPath := [] }

end Shared

end ItemCatalog.Config
