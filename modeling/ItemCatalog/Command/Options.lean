import ItemCatalog.Command.Help
import ItemCatalog.Surroundings
import ItemCatalog.Text.Similar

/-! # Command lines: what the program is asked to do

A command line names options and then a command with its own options, in any order. The line is read
from the left, up to the first argument that makes no sense; help and the version go before
everything that a line which can be read asks for. -/

namespace ItemCatalog.Command

/-- What is wrong with a command line. What is unknown comes with similar names. -/
inductive Complaint where
  | unknownOption (name : String) (similar : List String)
  | noValue (name : String)
  | needlessValue (name : String)
  | unknownCommand (name : String) (similar : List String)
  | noCommand
  | extra (arguments : List String)
  | noFile (option path : String)
  | directory (option path : String)
deriving DecidableEq, Repr

namespace Complaint

/-- The question after an unknown name. -/
def question (similar : List String) : String :=
  match similar.mergeSort (fun a b => a ≤ b) with
  | [] => ""
  | [s] => " Did you mean " ++ Text.quote s ++ "?"
  | ss => " (Did you mean one of: " ++ ", ".intercalate (ss.map Text.quote) ++ "?)"

/-- **The wording** of a complaint. -/
def message : Complaint → String
  | .unknownOption n similar => "No such option " ++ Text.quote n ++ "." ++ question similar
  | .noValue n => "Option " ++ Text.quote n ++ " requires an argument."
  | .needlessValue n => "Option " ++ Text.quote n ++ " does not take a value."
  | .unknownCommand n similar => "No such command " ++ Text.quote n ++ "." ++ question similar
  | .noCommand => "Missing command."
  | .extra [a] => "Got unexpected extra argument (" ++ a ++ ")"
  | .extra args => "Got unexpected extra arguments (" ++ " ".intercalate args ++ ")"
  | .noFile o p =>
    "Invalid value for " ++ Text.quote o ++ ": File " ++ Text.quote p ++ " does not exist."
  | .directory o p =>
    "Invalid value for " ++ Text.quote o ++ ": File " ++ Text.quote p ++ " is a directory."

/-- Whether the page of the command is pointed to. -/
def pointsToHelp : Complaint → Bool
  | .noValue _ => false
  | .needlessValue _ => false
  | _ => true

end Complaint

/-! ### Reading options -/

/-- Options as they come, with their values. -/
abbrev Given := List (Role × String)

/-- The name and the value that an argument writes with an equals sign. -/
def splitValue (argument : String) : String × Option String :=
  let cs := argument.toList
  let name := cs.takeWhile (· != '=')
  (String.ofList name,
    if name.length = cs.length then none else some (String.ofList (cs.drop (name.length + 1))))

/-- The switch of a letter. -/
def switchOf (page : Page) (c : Char) : Except Complaint (Role × String) :=
  match page.options.find? fun o => o.letter == some c with
  | some o => .ok (o.role, "")
  | none => .error (.unknownOption ("-" ++ c.toString) [])

/-- Reads one argument that starts with a hyphen; gives the options, and the arguments that are left
of those after it. -/
def readOption (page : Page) (argument : String) (rest : List String) :
    Except Complaint (Given × List String) :=
  let (name, value) := splitValue argument
  match page.options.find? fun o => o.written == name with
  | some o =>
    match o.value, value, rest with
    | none, some _, _ => .error (.needlessValue name)
    | none, none, _ => .ok ([(o.role, "")], rest)
    | some _, some v, _ => .ok ([(o.role, v)], rest)
    | some _, none, v :: rest => .ok ([(o.role, v)], rest)
    | some _, none, [] => .error (.noValue name)
  | none =>
    if argument.startsWith "--" then
      .error (.unknownOption name (Text.closeTo name (page.options.map OptionForm.written)))
    else do return (← (argument.toList.drop 1).mapM (switchOf page), rest)

/-- Whether an argument is read as an option. -/
def isOption (argument : String) : Bool :=
  argument.startsWith "-" && 1 < argument.length

/-- Reads arguments in at most so many steps; gives the options and the other arguments. Unless the
two may be `mixed`, everything from the first other argument on is left. -/
def readArguments (page : Page) (mixed : Bool) :
    Nat → List String → Except Complaint (Given × List String)
  | 0, args => .ok ([], args)
  | _ + 1, [] => .ok ([], [])
  | n + 1, a :: args =>
    if a = "--" then .ok ([], args)
    else if isOption a then do
      let (given, rest) ← readOption page a args
      let (more, others) ← readArguments page mixed n rest
      return (given ++ more, others)
    else if mixed then do
      let (given, others) ← readArguments page mixed n args
      return (given, a :: others)
    else .ok ([], a :: args)

/-- Reads all arguments. -/
def readAll (page : Page) (mixed : Bool) (args : List String) :
    Except Complaint (Given × List String) :=
  readArguments page mixed (args.length + 1) args

/-! ### Requests -/

/-- How a catalog is populated: the file with the configuration, the addresses of the initial
catalog and the additions, what is done with items that are there, and how much is said. -/
structure Request where
  config : Option String := none
  initial : Option String := none
  reset : Bool := false
  additions : Option String := none
  force : Bool := false
  quiet : Bool := false
  verbose : Bool := false
deriving DecidableEq, Repr, Inhabited

/-- The last value that is given for a role. -/
def valueOf (given : Given) (role : Role) : Option String :=
  (given.reverse.lookup role)

/-- The request of options. -/
def Request.ofGiven (given : Given) : Request :=
  let on := fun role => (valueOf given role).isSome
  { config := valueOf given .config, initial := valueOf given .initial, reset := on .reset
    additions := valueOf given .additions, force := on .force, quiet := on .quiet
    verbose := on .verbose }

/-- What a command line asks for. -/
inductive Action where
  | help (page : Page)
  | version
  | populate (request : Request)

/-- Why a command line cannot be followed: it is empty, or there is a complaint about the arguments
of the command of a page. -/
inductive Refusal where
  | empty
  | complaint (page : Page) (c : Complaint)

/-- The page or the version, if the options ask for one, the first of them. -/
def shownFirst (page : Page) (given : Given) : Option Action :=
  given.findSome? fun g => match g.1 with
    | .help => some (.help page)
    | .version => some .version
    | _ => none

/-- What is wrong with the file of a configuration. -/
def checkFile (around : Surroundings) (path : String) : Except Complaint Unit :=
  let p := Files.Path.ofText path
  if path.isEmpty || !around.isThere p then .error (.noFile "--config" path)
  else if around.isFile p then .ok ()
  else .error (.directory "--config" path)

/-- What the arguments of the command that populates a catalog ask for. -/
def readPopulate (around : Surroundings) (args : List String) : Except Complaint Action := do
  let (given, others) ← readAll populatePage true args
  match shownFirst populatePage given with
  | some action => return action
  | none =>
    let request := Request.ofGiven given
    request.config.forM (checkFile around)
    if others.isEmpty then return .populate request else throw (.extra others)

/-- What an unknown command asks for: what its name asks for as an option, if it is one. -/
def readUnknown (name : String) (args : List String) : Except Complaint Action := do
  let unknown := Complaint.unknownCommand name
    (Text.closeTo name (programPage.commands.map Prod.fst))
  if isOption name then
    let (given, _) ← readAll programPage false (name :: args)
    match shownFirst programPage given with
    | some action => return action
    | none => throw unknown
  else throw unknown

/-- **What a command line asks for.** -/
def readLine (around : Surroundings) (args : List String) : Except Refusal Action := do
  if args.isEmpty then throw .empty
  let (given, rest) ← (readAll programPage false args).mapError (.complaint programPage)
  match shownFirst programPage given, rest with
  | some action, _ => return action
  | none, [] => throw (.complaint programPage .noCommand)
  | none, name :: args =>
    if name = "populate" then (readPopulate around args).mapError (.complaint populatePage)
    else (readUnknown name args).mapError (.complaint programPage)

end ItemCatalog.Command
