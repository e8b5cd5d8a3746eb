import ItemCatalog.Config.Shared
import ItemCatalog.Log.Component
import ItemCatalog.Log.Registry

/-! # Setup: component loggers and how their records are shown

A component is known by its own name, with the colour that the shared configuration gives to it, or
by an explicit name and colour. Records are shown by one handler, which is installed with the first
logger: it sets the level of the root, hides the details of the web client, and takes its options
from the shared configuration. A configuration that cannot be had leaves the usual colour and
options. -/

namespace ItemCatalog.Log

open Config

/-- What a logger is asked for by: the name of a component, or an explicit name, which goes before
it, and its colour; and the level of the root, if the handler is installed. -/
structure Request where
  component : Option String := none
  name : Option String := none
  color : Value := .null
  level : Value := .int info
deriving Inhabited

/-- How the handler shows records: whether faults come with their places, these with the values of
variables, and callers with their full paths. -/
structure HandlerOptions where
  tracebacks : Value := .bool true
  locals : Value := .bool false
  paths : Value := .bool false
deriving Inhabited

/-- The colour of components without one. -/
def usualColor : Value := .text "white"

/-- A colour, or the usual one if it does not count as true. -/
def colorOr (v : Value) : Value :=
  if v.isTruthy then v else usualColor

/-- The fault of a logger that is asked for without a name. -/
def namelessFault : Fault :=
  .failure .value ("Component name is required. Usage: get_logger('component_name') or "
    ++ "get_logger(name='custom_name', color='blue')")

/-- Work whose failure is its result. -/
def caught {α : Type} (w : SharedWork α) : SharedWork (Except Fault α) :=
  fun s => let (x, s) := w s; (.ok x, s)

/-- The options that the shared configuration gives to the handler. -/
def handlerOptions : SharedWork HandlerOptions := do
  let options ← caught (do
    let tracebacks ← Shared.setting "logging.rich_tracebacks" (.bool true) none
    let locals ← Shared.setting "logging.show_traceback_locals" (.bool false) none
    let paths ← Shared.setting "logging.show_full_paths" (.bool false) none
    return HandlerOptions.mk tracebacks locals paths)
  return options.toOption.getD {}

/-- **The component** that is asked for. -/
def component (q : Request) : SharedWork Component := do
  match q.name, q.component with
  | some name, _ => return ⟨name, colorOr q.color⟩
  | none, some name =>
    let v ← caught (Shared.setting ("logging.logging_colors." ++ name) .null none)
    return ⟨name, colorOr (v.toOption.getD .null)⟩
  | none, none => throw namelessFault

/-- The loggers of the web client. -/
def noisyLoggers : List String := ["httpx", "httpcore"]

/-- The loggers before any handler is installed. -/
def bare (r : Registry) : Registry :=
  (r.setLevel rootName warning).setLevels (noisyLoggers.map fun n => (n, 0))

/-- Installs the handler: gives the root its level, and hides the details of the web client. -/
def install (r : Registry) (level : Value) : Except Fault Registry := do
  let r := r.setLevel rootName (← levelOf level)
  return r.setLevels (noisyLoggers.map fun n => (n, warning))

/-- **Asks for a logger** a number of times while there is no handler; gives the levels after it,
and the options of the handlers that were installed. -/
def setUp (r : Registry) (calls : Nat) (q : Request) :
    SharedWork (Registry × Except Fault (List HandlerOptions)) := do
  let r := bare r
  if calls = 0 then return (r, .ok [])
  match install r q.level with
  | .error e => return (r, .error e)
  | .ok r =>
    let options ← handlerOptions
    return (r, (← caught (component q)).map fun _ => [options])

end ItemCatalog.Log
