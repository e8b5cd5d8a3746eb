import ItemCatalog.Text.Percent
import ItemCatalog.Text.Split

/-! # Paths: where files are

A path is a root, if it has one, and names; the name `.` and empty names do not count, the name `..`
stays. Two leading slashes are a root of their own. A path that starts with a tilde can be expanded
by the home directory, and an absolute path has an address in which all but some characters are
written by their bytes. -/

namespace ItemCatalog.Files

/-- The names from the root down to a file or directory. -/
abbrev Location := List String

/-- A path: its root, which is nothing, one slash or two, and its names. -/
structure Path where
  root : String
  names : List String
deriving DecidableEq, Repr, Inhabited

namespace Path

/-- The root that a text starts with. -/
def rootOf (cs : List Char) : String :=
  match cs.takeWhile (· == '/') with
  | [] => ""
  | ['/', '/'] => "//"
  | _ => "/"

/-- The path of a text. -/
def ofText (s : String) : Path :=
  ⟨rootOf s.toList, (Text.cut '/' s).filter fun n => n ≠ "" && n ≠ "."⟩

/-- The text of a path. -/
def render (p : Path) : String :=
  if p.root = "" && p.names.isEmpty then "." else p.root ++ "/".intercalate p.names

/-- A path inside a path. -/
def join (p : Path) (more : Path) : Path :=
  if more.root = "" then ⟨p.root, p.names ++ more.names⟩ else more

/-- The path of a name inside a path. -/
def child (p : Path) (name : String) : Path :=
  ⟨p.root, p.names ++ [name]⟩

/-- The names with every `..` taken back. -/
def resolveNames (start : Location) (names : List String) : Location :=
  names.foldl (fun acc n => if n = ".." then acc.dropLast else acc ++ [n]) start

/-- The location of a path, seen from a directory. -/
def resolve (cwd : Location) (p : Path) : Location :=
  resolveNames (if p.root = "" then cwd else []) p.names

/-- The path of a location. -/
def ofLocation (l : Location) : Path :=
  ⟨"/", l⟩

/-! ### Home directories -/

/-- The home directory that the first name of a path stands for. The function gives the home
directory of a user, and of whoever runs the program for the empty name. -/
def homeOf? (homes : String → Option String) (first : String) : Option String :=
  match first.toList with
  | '~' :: user => homes (String.ofList user)
  | _ => none

/-- The text without slashes at its end. -/
def dropSlashes (s : String) : String :=
  String.ofList (s.toList.reverse.dropWhile (· == '/')).reverse

/-- The path with its tilde expanded; nothing if no home directory is known. -/
def expandHome? (homes : String → Option String) (p : Path) : Option Path :=
  match p.root, p.names with
  | "", first :: rest =>
    if first.startsWith "~" then
      match homeOf? homes first with
      | some h =>
        let h := dropSlashes h
        let h := if h.isEmpty then "/" else h
        if h.startsWith "~" then none
        else
          let base := ofText h
          some ⟨base.root, base.names ++ rest⟩
      | none => none
    else some p
  | _, _ => some p

/-! ### Addresses -/

/-- Whether a character stands for itself in an address. -/
def isPlain (c : Char) : Bool :=
  c.isAlphanum || c == '_' || c == '.' || c == '-' || c == '~' || c == '/'

/-- **The address** of an absolute path. -/
def toUri (p : Path) : String :=
  "file://" ++ Text.Percent.encode isPlain p.render

end Path

end ItemCatalog.Files
