import ItemCatalog.Command.Screen

/-! # The program

Reads the environment, the users, the files below the working directory and those of the user, runs
the program on its command line, and writes what it says and shows. -/

namespace ItemCatalog

/-- The variables of the environment. -/
def readEnvironment : IO Environment := do
  let text ← try IO.FS.readFile "/proc/self/environ" catch _ => pure ""
  return (Text.cut '\x00' text).filterMap fun entry =>
    match Text.cut '=' entry with
    | name :: value => if name.isEmpty then none else some (name, "=".intercalate value)
    | [] => none

/-- The tree with the files and directories of a list, at most so many levels deep. -/
def readEntries : Nat → Files.Tree → List IO.FS.DirEntry → IO Files.Tree
  | 0, tree, _ => return tree
  | depth + 1, tree, entries =>
    entries.foldlM (fun tree e => do
      let l := (Files.Path.ofText e.path.toString).resolve []
      if ← e.path.isDir then
        readEntries depth (tree.makeDirectory l) (← e.path.readDir).toList
      else
        try return tree.write l (← IO.FS.readBinFile e.path).toList catch _ => return tree) tree

/-- The home directories of the users of the system. -/
def readUsers : IO (List (String × String)) := do
  let text ← try IO.FS.readFile "/etc/passwd" catch _ => pure ""
  return (Text.cut '\n' text).filterMap fun line =>
    match Text.cut ':' line with
    | name :: _ :: _ :: _ :: _ :: home :: _ => some (name, home)
    | _ => none

/-- What the program finds around it. Its console reads texts as marked texts. -/
def readSurroundings : IO Surroundings := do
  let environment ← readEnvironment
  let here ← IO.currentDir
  let home := System.mkFilePath [(environment.get? "HOME").getD "/", ".catalog_bootstrap"]
  let local_ ← readEntries 4 {} (← here.readDir).toList
  let files ← try readEntries 2 local_ (← home.readDir).toList catch _ => pure local_
  let directory := (Files.Path.ofText here.toString).resolve []
  return {
    environment, directory, users := ← readUsers, files := files.makeDirectory directory
    console := .marked }

end ItemCatalog

open ItemCatalog in
/-- Runs the program. -/
def main (args : List String) : IO UInt32 := do
  let around ← readSurroundings
  match Command.run {} around args none with
  | .ok ending =>
    for record in ending.log do IO.eprintln (Command.writeRecord record)
    IO.print (Command.writeLines ending.shown)
    IO.eprint ending.failure
    return ending.status
  | .error e =>
    IO.eprintln e.message
    return 1
