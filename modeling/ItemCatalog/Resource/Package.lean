import ItemCatalog.Surroundings

/-! # Packages: directories under dotted names

A dotted name leads from the working directory to a package, one directory for each of its parts. A
directory with a start file is a package; a file of the name with the ending of modules is a module,
which is no package; any other directory is a package too. The start file of a package runs before
anything in it can be read, and what matters of it here is whether it begins by raising a fault. -/

namespace ItemCatalog.Resource.Package

open Files Text

/-- The name of a start file. -/
def startFile : String := "__init__.py"

/-- The ending of modules. -/
def moduleEnding : String := ".py"

/-- What a name stands for: a directory, or a single file. -/
inductive Module where
  | package (location : Location)
  | single
deriving DecidableEq, Repr

/-- The fault of a package that is not there. -/
def missing (name : String) (reason : String) : Fault :=
  .failure .packageMissing ("No module named " ++ quote name ++ reason)

/-! ### Start files -/

/-- The text between quotes at the start of characters. -/
def quotedText? (cs : List Char) : Option String :=
  match cs with
  | q :: rest =>
    if q = '\'' || q = '"' then some (String.ofList (rest.takeWhile (· != q))) else none
  | [] => none

/-- The text or the number at the start of characters. -/
def given? (cs : List Char) : Option Scalar :=
  match quotedText? cs with
  | some s => some (.text s)
  | none => (String.ofList (cs.takeWhile Char.isDigit)).toNat?.map fun n => .int n

/-- The fault of a kind, with what it is given. A start file may also use up the memory or tell the
program to stop. -/
def faultOf (kind : String) (given : Option Scalar) : Fault :=
  let text := given.elim "" Scalar.display
  match kind with
  | "MemoryError" => .memory text
  | "KeyboardInterrupt" => .signal .interrupt text
  | "SystemExit" => .signal (.exit (given.getD .null)) text
  | "GeneratorExit" => .signal (.named kind) text
  | "BaseException" => .signal (.named kind) text
  | _ => .failure (.named kind) text

/-- The fault that a statement raises. -/
def raised? (statement : String) : Option Fault :=
  let words := "raise "
  if statement.startsWith words then
    let rest := statement.toList.drop words.length
    let kind := rest.takeWhile fun c => c.isAlphanum || c == '_'
    some (faultOf (String.ofList kind) (given? ((rest.drop kind.length).dropWhile (· == '('))))
  else none

/-- The fault that a text raises by its first statement. -/
def textFault? (text : String) : Option Fault :=
  let lines := (cut '\n' text).filter fun l => !allBlank l && !l.startsWith "#"
  lines.head?.bind raised?

/-- Runs the file at a location. -/
def run (s : Surroundings) (l : Location) : Except Fault Unit :=
  match (s.readText (.utf8 false) (.ofLocation l)).toOption.bind textFault? with
  | some e => .error e
  | none => .ok ()

/-! ### Names -/

/-- Whether there is a file at a location. -/
def isFileAt (s : Surroundings) (l : Location) : Bool :=
  s.isFile (.ofLocation l)

/-- What a part of a name stands for in a directory; `name` is the name up to this part. -/
def findPart (s : Surroundings) (dir : Location) (name part : String) : Except Fault Module := do
  let inside := dir ++ [part]
  if part.isEmpty then throw (missing name "")
  else if isFileAt s (inside ++ [startFile]) then
    run s (inside ++ [startFile])
    return .package inside
  else if isFileAt s (dir ++ [part ++ moduleEnding]) then
    run s (dir ++ [part ++ moduleEnding])
    return .single
  else if s.isThere (.ofLocation inside) && !isFileAt s inside then return .package inside
  else throw (missing name "")

/-- What the parts of a name stand for, after the parts `before` that stand for `found`. -/
def findParts (s : Surroundings) : List String → List String → Module → Except Fault Module
  | _, [], found => .ok found
  | before, part :: parts, found =>
    let name := ".".intercalate (before ++ [part])
    match found with
    | .single =>
      .error (missing name ("; " ++ quote (".".intercalate before) ++ " is not a package"))
    | .package dir => do
      findParts s (before ++ [part]) parts (← findPart s dir name part)

/-- **The directory** of a package. -/
def find (s : Surroundings) (name : String) : Except Fault Location := do
  if name.startsWith "." then
    throw (.failure .type ("the 'package' argument is required to perform a relative import for " ++
      quote name))
  match ← findParts s [] (cut '.' name) (.package s.directory) with
  | .package dir => return dir
  | .single => throw (.failure .type (quote name ++ " is not a package"))

end ItemCatalog.Resource.Package
