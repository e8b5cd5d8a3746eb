import ItemCatalog.Config.Basic
import ItemCatalog.Log.Component
import ItemCatalog.Number.Read
import ItemCatalog.Resource.Address
import ItemCatalog.Resource.Package

/-! # Loaders: from an address to a text

A loader reads what is at an address: by a handler that is registered for the scheme, from a server,
from a package or from a file. An address without a scheme, or with one of a single letter, is a
path. Every ordinary fault on the way is reported as a resource that could not be had, with the
fault as its cause; what no stage may record goes on as it is. -/

namespace ItemCatalog.Resource

open Files Text

/-- What serves a scheme: from an address to its text. -/
abbrev Handler := String → Except Fault String

/-- A loader: how long a server may take, in seconds, the label of the character set of files, and
the handlers by scheme in small letters, the last one first. -/
structure Loader where
  timeout : Value
  encoding : String := "utf-8"
  handlers : List (String × Handler) := []
deriving Inhabited

/-- What became of an attempt to read an address: the text, or why there is none, the addresses that
handlers were asked for, how long servers were given, for each time that one was asked, and what was
said. -/
structure Fetch where
  result : Except Fault String
  requests : List String := []
  timeouts : List Value := []
  log : List Log.Record := []
deriving Inhabited

namespace Loader

/-! ### Making loaders -/

/-- How long a server may take if nothing is said. -/
def defaultTimeout : Value :=
  .scalar (.float ((Number.floatOfInt 30).toOption.getD .nan))

/-- The setting that says how long a server may take. -/
def timeoutSetting : String := "resources.http_timeout"

/-- The fault of a value that is no number. -/
def notANumber (kind : String) : Fault :=
  .failure .type s!"float() argument must be a string or a real number, not '{kind}'"

/-- The fault of a number that cannot be read. -/
def ofNumberFault (e : Number.NumberFault) : Fault :=
  .failure (if e = .tooLarge then .overflow else .value) e.message

/-- A value as a floating-point number. -/
def floatOf (v : Value) : Except Fault Number.Binary64 :=
  let number := fun n => (Number.floatOfInt n).mapError ofNumberFault
  match v with
  | .scalar (.float x) => .ok x
  | .int n => number n
  | .bool b => number (if b then 1 else 0)
  | .text s => (Number.readFloat s).mapError ofNumberFault
  | .scalar (.bytes bs) =>
    (Number.readFloat (String.ofList (bs.map fun b => Char.ofNat b.toNat))).mapError fun _ =>
      .failure .value ("could not convert string to float: " ++ v.inspect)
  | .null => .error (notANumber "NoneType")
  | .scalar (.date _) => .error (notANumber "datetime.date")
  | .scalar (.instant _) => .error (notANumber "datetime.datetime")
  | .pair _ _ => .error (notANumber "tuple")
  | .set _ => .error (notANumber "set")
  | .map _ => .error (notANumber "dict")
  | _ => .error (notANumber "list")

/-- **The loader** of a configuration. -/
def ofConfig (c : Config) : Except Fault Loader := do
  let x ← floatOf (c.get timeoutSetting defaultTimeout)
  return { timeout := .scalar (.float x) }

/-- The loader with a handler for a scheme. -/
def register (l : Loader) (scheme : String) (h : Handler) : Loader :=
  { l with handlers := (lower scheme, h) :: l.handlers }

/-! ### The readers -/

/-- The text of the file at a path. -/
def readPath (l : Loader) (s : Surroundings) (p : Path) : Except Fault String := do
  match Charset.ofLabel? l.encoding with
  | some charset => s.readText charset p
  | none =>
    let _ ← (s.files.readBytes s.directory p).mapError (FileFault.toFault p.render)
    throw (.failure .lookup (if Charset.isByteLabel l.encoding then
      s!"'{l.encoding}' is not a text encoding; use codecs.open() to handle arbitrary codecs"
      else "unknown encoding: " ++ l.encoding))

/-- The path that an address means. -/
def pathOf (a : Address) (url : String) : Path :=
  if a.scheme = "file" then
    if a.authority ≠ "" || a.path.startsWith "/" then
      .ofText (Percent.decode (Percent.decode a.path))
    else .ofText (Percent.decode (String.ofList (url.toList.drop "file:".length)))
  else .ofText url

/-- Reads a file. -/
def readFile (l : Loader) (s : Surroundings) (a : Address) (url : String) :
    Except Fault String := do
  match (pathOf a url).expandHome? s.home with
  | some p => l.readPath s p
  | none => throw (noHomeFault (pathOf a url))

/-- Reads a file of a package. -/
def readPackage (l : Loader) (s : Surroundings) (a : Address) (url : String) :
    Except Fault String := do
  let inside := String.ofList (a.path.toList.dropWhile (· == '/'))
  if a.authority.isEmpty || inside.isEmpty then
    throw (.unfetched url (some s!"Classpath URI must name a package and a path: '{url}'"))
  let dir ← Package.find s a.authority
  l.readPath s ((Path.ofLocation dir).join (.ofText inside))

/-- The ways to read an address. -/
inductive Route where
  | handler (h : Handler)
  | server
  | package
  | file
  | none

/-- **The way** to read an address of a scheme. -/
def route (l : Loader) (scheme : String) : Route :=
  match l.handlers.lookup scheme with
  | some h => .handler h
  | Option.none =>
    if scheme = "http" || scheme = "https" then .server
    else if scheme = "classpath" then .package
    else if scheme = "file" || scheme.length ≤ 1 then .file
    else .none

/-- An ordinary fault as a resource that could not be had; other faults as they are. -/
def wrap (url : String) (e : Fault) : Fault :=
  match e with
  | .fetch .. => e
  | e => if e.isFatal then e else .fetch url (s!"Unable to load resource '{url}': " ++ e.message) e

/-- **Reads an address.** -/
def fetch (l : Loader) (s : Surroundings) (url : String) : Fetch :=
  if allBlank url then { result := .error (.unfetched url (some "Resource URI must not be blank")) }
  else match Address.ofText url with
    | .error e => { result := .error e }
    | .ok a =>
      let log := [Log.resources.debug s!"Fetching resource {url}"]
      match l.route a.scheme with
      | .handler h => { result := (h url).mapError (wrap url), requests := [url], log }
      | .server =>
        { result := (Http.read s.web url).mapError (wrap url), timeouts := [l.timeout], log }
      | .package => { result := (l.readPackage s a url).mapError (wrap url), log }
      | .file => { result := (l.readFile s a url).mapError (wrap url), log }
      | .none =>
        let message := s!"Unsupported URI scheme '{a.scheme}' in '{url}'"
        { result := .error (.unfetched url (some message)), log }

end Loader

end ItemCatalog.Resource
