import ItemCatalog.Config.EnvFile
import ItemCatalog.Files.Tree
import ItemCatalog.Log.Console
import ItemCatalog.Resource.Http

/-! # Surroundings: what a program finds around it

The variables of the environment, the users of the system, a working directory, the files, what
servers send, the console that shows what the program says, and the words of the readers of
texts. -/

namespace ItemCatalog

/-- What a program finds around it: the environment, the name of the user who runs it, the home
directories of users by their names, the working directory, the files, what servers send by address,
the console, and how readers say what is wrong. -/
structure Surroundings where
  environment : Environment := []
  user : String := "root"
  users : List (String × String) := [("root", "/root")]
  directory : Files.Location := []
  files : Files.Tree := {}
  web : Resource.Http.Table := []
  console : Log.Console := .verbatim
  wording : Wording := .brief
deriving Inhabited

namespace Surroundings

open Files

/-- The path of the working directory. -/
def here (s : Surroundings) : Path :=
  .ofLocation s.directory

/-- The home directory of a user. Whoever runs the program has the empty name here, and the home
directory that the environment sets, or else the own one. -/
def home (s : Surroundings) (name : String) : Option String :=
  if name.isEmpty then (s.environment.get? "HOME").or (s.users.lookup s.user)
  else s.users.lookup name

/-- Whether there is a file at a path. -/
def isFile (s : Surroundings) (p : Path) : Bool :=
  s.files.isFile s.directory p

/-- Whether there is a file or a directory at a path. -/
def isThere (s : Surroundings) (p : Path) : Bool :=
  s.files.isThere s.directory p

/-- The text of the file at a path. -/
def readText (s : Surroundings) (charset : Text.Charset) (p : Path) : Except Fault String :=
  s.files.readText s.directory charset p

/-- The absolute path that a path leads to, with every `..` taken back. -/
def resolve (s : Surroundings) (p : Path) : Path :=
  .ofLocation (p.resolve s.directory)

end Surroundings

end ItemCatalog
