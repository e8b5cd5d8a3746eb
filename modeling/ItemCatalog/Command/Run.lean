import ItemCatalog.Command.Options
import ItemCatalog.Command.Report
import ItemCatalog.Config.Shared
import ItemCatalog.Log.Scope
import ItemCatalog.Population.Pass

/-! # Runs: what the program does

The program reads its command line and shows a page, its version, or a catalog after one pass. It
ends with an exit code: zero if all went well, two for a command line that cannot be followed, and
one for any other failure. A user who stops it makes it end with a code of its own. -/

namespace ItemCatalog.Command

/-- How a run ends: its exit code, what it shows, what it says about its failure, what is said
meanwhile, and the loggers at the end. -/
structure Ending where
  code : Scalar := .int 0
  shown : List Line := []
  failure : String := ""
  log : List Log.Record := []
  registry : Log.Registry := {}
deriving Inhabited

/-- Something that stops the program before it does anything: its user, at a question, or a
fault. -/
inductive Stop where
  | abort
  | fault (e : Fault)

/-- The loggers of the initialization. -/
def initializationLoggers : List String :=
  ["CATALOG_INIT", "CONFIG", "catalog", "parsers", "resources"]

/-! ### Failures -/

/-- The end of a run by a fault; some signals go past the program. -/
def endBy (ending : Ending) : Fault → Except Fault Ending
  | .signal .interrupt _ => .ok { ending with code := .int 130, failure := "\nInterrupted\n" }
  | .signal (.exit code) _ => .ok { ending with code }
  | .signal s m => .error (.signal s m)
  | e => .ok { ending with code := .int 1, failure := "Error: " ++ e.message ++ "\n" }

/-- Lines, each with its end. -/
def joinLines (lines : List String) : String :=
  String.join (lines.map (· ++ "\n"))

/-- What is said about a command line that cannot be followed. -/
def Refusal.text (width : Nat) : Refusal → String
  | .empty => joinLines (programPage.lines width)
  | .complaint page c =>
    let hint := page.usage width ++ ["Try '" ++ page.command ++ " --help' for help.", ""]
    joinLines ((if c.pointsToHelp then hint else []) ++ ["Error: " ++ c.message])

/-! ### Populating -/

/-- The configuration of a request: of its file, of the shared default if there is a file in the
working directory, or an empty one. -/
def configOf (around : Surroundings) (request : Request) : Config.SharedWork Config :=
  match request.config with
  | some path => Config.Shared.config (some path) true
  | none =>
    if around.isThere (around.here.child Config.fileName) then Config.Shared.config none
    else return {}

/-- The state before the pass of a request. -/
def startOf (around : Surroundings) (config : Config) (request : Request) : Population.State where
  context := { config, attached := true }
  around
  settings :=
    { initialUri := request.initial, reset := request.reset, additionsUri := request.additions
      force := request.force }

/-- The end of a run with a report. -/
def showReport (ending : Ending) (c : Catalog) (runs : Nat) : Except Fault Ending :=
  let (lines, fault) := report c runs
  let ending := { ending with shown := lines }
  match fault with
  | none => .ok ending
  | some e => endBy ending (.ofMarkup e)

/-- **Populates a catalog** and shows it. -/
def populate (r : Log.Registry) (around : Surroundings) (request : Request) : Except Fault Ending :=
  let shown := { around with console := around.console.behind r }
  let (config, _, after, log) := configOf around request ({}, shown, [])
  let log := r.said log
  match config with
  | .error e => endBy { log, registry := r } e
  | .ok config =>
    let detailed := r.setLevels (initializationLoggers.map fun n => (n, Log.debug))
    let r := if request.verbose then detailed else r
    let hushed := (Log.Scope.quiet r initializationLoggers).2
    let quieted := if request.quiet then hushed else r
    let start := startOf { after with console := around.console.behind quieted } config request
    let pass := Population.nested fun inner => Population.populateCatalog inner true none
    let (name, state) := pass start
    let said := quieted.said state.trace.log
    let ending := { log := log ++ said, registry := r }
    match name with
    | .error e => endBy ending e
    | .ok name => showReport ending (state.catalog name) state.runs.value

/-! ### Runs -/

/-- Does what a command line asks for. -/
def act (r : Log.Registry) (around : Surroundings) (width : Nat) : Action → Except Fault Ending
  | .help page => .ok { shown := (page.lines width).map fun l => .text (trimEnd l), registry := r }
  | .version =>
    .ok { shown := [.text (programName ++ ", version " ++ programVersion)], registry := r }
  | .populate request => populate r around request

/-- **Runs the program** on a command line, unless something stops it. -/
def run (r : Log.Registry) (around : Surroundings) (args : List String) (stop : Option Stop) :
    Except Fault Ending :=
  let width := pageWidth (columnsOf around.environment)
  match stop with
  | some .abort => .ok { code := .int 130, failure := "\nAborted!\n", registry := r }
  | some (.fault e) => endBy { registry := r } e
  | none =>
    match readLine around args with
    | .ok action => act r around width action
    | .error refusal => .ok { code := .int 2, failure := refusal.text width, registry := r }

end ItemCatalog.Command
