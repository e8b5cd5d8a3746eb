import ItemCatalog.Config.Placeholder
import ItemCatalog.Number.Read
import ItemCatalog.Text.Wrap

/-! # Help pages: what the program tells about itself

A page says how a command is called, what it does, and lists its options and, for the whole program,
its commands. It is as wide as the screen, within bounds. An option is a switch or takes a value. -/

namespace ItemCatalog.Command

open Text

/-- The name that the program is called by. -/
def programName : String := "catalog-bootstrap"

/-- The version of the program. -/
def programVersion : String := "0.3.1"

/-! ### Options -/

/-- What an option is for. -/
inductive Role where
  | help
  | version
  | config
  | initial
  | reset
  | additions
  | force
  | quiet
  | verbose
deriving DecidableEq, Repr, Inhabited

/-- An option: its name behind two hyphens, the letter of a switch behind one, the word that stands
for its value, if it takes one, and what it does. -/
structure OptionForm where
  role : Role
  name : String
  letter : Option Char := none
  value : Option String := none
  text : String
deriving Repr, Inhabited

/-- The option as it is written. -/
def OptionForm.written (o : OptionForm) : String :=
  "--" ++ o.name

/-- The option as it is listed. -/
def OptionForm.label (o : OptionForm) : String :=
  (o.letter.elim "" fun c => "-" ++ c.toString ++ ", ") ++ o.written ++ (o.value.elim "" (" " ++ ·))

/-- The option that shows a page. -/
def helpOption : OptionForm :=
  { role := .help, name := "help", text := "Show this message and exit." }

/-! ### Pages -/

/-- A paragraph, which is broken into lines or has fixed ones. -/
inductive Paragraph where
  | flowing (text : String)
  | fixed (lines : List String)
deriving Repr

/-- A page: the words that a command is called by, what can follow them, what it does, its options,
and its own commands with what they do. -/
structure Page where
  command : String
  arguments : String
  about : List Paragraph
  options : List OptionForm
  commands : List (String × String) := []
deriving Repr, Inhabited

/-- What the command that populates a catalog does. -/
def populateText : String := "Run one catalog population pass and show the result."

/-- The page of the program. -/
def programPage : Page where
  command := programName
  arguments := "[OPTIONS] COMMAND [ARGS]..."
  about := [
    .flowing "Catalog Bootstrap CLI - populate a runtime catalog from its configured sources.",
    .flowing ("Use 'catalog-bootstrap COMMAND --help' for more information on a specific " ++
      "command.")]
  options := [
    { role := .version, name := "version", text := "Show the version and exit." },
    helpOption]
  commands := [("populate", populateText)]

/-- The page of the command that populates a catalog. -/
def populatePage : Page where
  command := programName ++ " populate"
  arguments := "[OPTIONS]"
  about := [
    .flowing populateText,
    .fixed ["Examples:",
      "  catalog-bootstrap populate --catalog-initial file:///srv/catalog.bom",
      "  catalog-bootstrap populate --config config.yml --catalog-add extra.bom --catalog-force"]]
  options := [
    { role := .config, name := "config", value := "FILE"
      text := "Configuration file (default: ./config.yml if present)" },
    { role := .initial, name := "catalog-initial", value := "TEXT"
      text := "URI of the initial catalog" },
    { role := .reset, name := "catalog-reset"
      text := "Request a reset of persisted catalog items" },
    { role := .additions, name := "catalog-add", value := "TEXT"
      text := "URI of items to add after the initial load" },
    { role := .force, name := "catalog-force"
      text := "Let added items replace existing ones with the same id" },
    { role := .quiet, name := "quiet", letter := 'q'
      text := "Only show warnings and errors from initialization" },
    { role := .verbose, name := "verbose", letter := 'v'
      text := "Show debug output from initialization" },
    helpOption]

/-! ### Layout -/

/-- The width of pages on a screen of so many columns. -/
def pageWidth (columns : Nat) : Nat :=
  max (min columns 80 - 2) 50

/-- The columns of a screen: what the environment says, if that makes sense. -/
def columnsOf (env : Environment) : Nat :=
  match (env.get? "COLUMNS").map (Number.readInt 10) with
  | some (.ok (.ofNat (n + 1))) => n + 1
  | _ => 80

/-- So many blanks. -/
def blanks (n : Nat) : String :=
  String.ofList (List.replicate n ' ')

/-- How a command is called. -/
def Page.usage (p : Page) (width : Nat) : List String :=
  let start := "Usage: " ++ p.command ++ " "
  if start.length + 20 ≤ width then wrap width start (blanks start.length) p.arguments
  else start :: wrap width (blanks 11) (blanks 11) p.arguments

/-- The lines of a paragraph. -/
def Paragraph.lines (width : Nat) : Paragraph → List String
  | .flowing text => wrap width "  " "  " text
  | .fixed lines => lines.map ("  " ++ ·)

/-- The lines of a list of terms with their texts, in two columns. -/
def definitions (width : Nat) (rows : List (String × String)) : List String :=
  let first := min ((rows.map fun r => r.1.length).foldl max 0) 30 + 2
  let room := max (width - first - 2) 10
  rows.flatMap fun (term, text) =>
    let indent := blanks (first + 2)
    match wrap room "" "" text with
    | [] => ["  " ++ term]
    | l :: ls =>
      let rest := ls.map (indent ++ ·)
      if term.length + 2 ≤ first then ("  " ++ term ++ blanks (first - term.length) ++ l) :: rest
      else ("  " ++ term) :: (indent ++ l) :: rest

/-- The first of a list of words that fit into a room, with dots if any are left out. -/
def shortened (room : Nat) (text : String) : String :=
  let words := cut ' ' text
  let fits := fun n => ((" ".intercalate (words.take n)).length + 3 ≤ room : Bool)
  if text.length ≤ room then text
  else
    let kept := ((List.range words.length).filter fits).getLast?.getD 0
    " ".intercalate (words.take kept) ++ "..."

/-- The lines of a section, after a blank one. -/
def sectionLines (title : String) (lines : List String) : List String :=
  if lines.isEmpty then [] else "" :: (title ++ ":") :: lines

/-- **The lines** of a page. -/
def Page.lines (p : Page) (width : Nat) : List String :=
  let room := width - 6 - (p.commands.map fun c => c.1.length).foldl max 0
  p.usage width ++ p.about.flatMap (fun a => "" :: a.lines width)
    ++ sectionLines "Options" (definitions width (p.options.map fun o => (o.label, o.text)))
    ++ sectionLines "Commands"
      (definitions width (p.commands.map fun c => (c.1, shortened room c.2)))

end ItemCatalog.Command
