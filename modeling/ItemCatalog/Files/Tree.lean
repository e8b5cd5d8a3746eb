import ItemCatalog.Fault
import ItemCatalog.Files.Path
import ItemCatalog.Text.Charset

/-! # File trees: what can be read

A tree holds files and directories at their locations. There are no links from one location to
another, so that each has one path without steps back. A path is followed name by name, and what
stands in its way is the fault of reading it. Reading a text decodes the bytes of a file and makes
every line end the same. -/

namespace ItemCatalog.Files

open Text

/-- A file or a directory. -/
inductive Entry where
  | file (bytes : List UInt8)
  | directory
deriving Repr, Inhabited

/-- The files and directories below the root, at their locations. -/
structure Tree where
  entries : List (Location × Entry) := []
deriving Repr, Inhabited

/-- Why a path does not lead to a file. There may be nothing at it, a file in the place of a
directory or the other way round, or it is no path: too long, or with the character that ends all
paths. -/
inductive FileFault where
  | missing
  | notDirectory
  | isDirectory
  | tooLong
  | nullCharacter
deriving DecidableEq, Repr

/-- The wording of a fault at a path. -/
def FileFault.message (path : String) : FileFault → String
  | .missing => s!"[Errno 2] No such file or directory: {quote path}"
  | .notDirectory => s!"[Errno 20] Not a directory: {quote path}"
  | .isDirectory => s!"[Errno 21] Is a directory: {quote path}"
  | .tooLong => s!"[Errno 36] File name too long: {quote path}"
  | .nullCharacter => "embedded null byte"

/-- The fault at a path. -/
def FileFault.toFault (path : String) (e : FileFault) : Fault :=
  let kind : FaultKind := match e with
    | .missing => .fileMissing
    | .notDirectory => .notDirectory
    | .isDirectory => .isDirectory
    | .tooLong => .system
    | .nullCharacter => .value
  .failure kind (e.message path)

/-- The fault of a path whose tilde cannot be expanded: nobody has a name with the character that
ends all paths, and of any other name no home directory is known. -/
def noHomeFault (p : Path) : Fault :=
  if (p.names.headD "").toList.contains '\x00' then FileFault.nullCharacter.toFault p.render
  else .failure .runtime "Could not determine home directory."

namespace Tree

/-- The entry at a location; the root is a directory. -/
def entry? (t : Tree) (l : Location) : Option Entry :=
  if l.isEmpty then some .directory else t.entries.lookup l

/-- Follows names from a location on. -/
def follow (t : Tree) : List String → Location → Except FileFault (Location × Entry)
  | [], l =>
    match t.entry? l with
    | some e => .ok (l, e)
    | none => .error .missing
  | n :: rest, l =>
    match t.entry? l with
    | none => .error .missing
    | some (.file _) => .error .notDirectory
    | some .directory =>
      if 255 < n.utf8ByteSize then .error .tooLong
      else t.follow rest (if n = ".." then l.dropLast else l ++ [n])

/-- **The entry at a path**, seen from a directory. -/
def find (t : Tree) (cwd : Location) (p : Path) : Except FileFault (Location × Entry) :=
  if p.render.toList.contains '\x00' then .error .nullCharacter
  else if 4096 ≤ p.render.utf8ByteSize then .error .tooLong
  else t.follow p.names (if p.root = "" then cwd else [])

/-- Whether there is a file at a path; a path that cannot be followed leads to none. -/
def isFile (t : Tree) (cwd : Location) (p : Path) : Bool :=
  match t.find cwd p with
  | .ok (_, .file _) => true
  | _ => false

/-- Whether there is a file or directory at a path. -/
def isThere (t : Tree) (cwd : Location) (p : Path) : Bool :=
  (t.find cwd p).isOk

/-- The bytes of the file at a path. -/
def readBytes (t : Tree) (cwd : Location) (p : Path) : Except FileFault (List UInt8) :=
  match t.find cwd p with
  | .ok (_, .file bytes) => .ok bytes
  | .ok (_, .directory) => .error .isDirectory
  | .error e => .error e

/-! ### Texts -/

/-- The characters with one character for every line end. -/
def unifyLines : List Char → List Char
  | '\r' :: '\n' :: cs => '\n' :: unifyLines cs
  | '\r' :: cs => '\n' :: unifyLines cs
  | c :: cs => c :: unifyLines cs
  | [] => []

/-- The fault of bytes that are no text. -/
def decodeFault (e : DecodeFault) : Fault :=
  .failure (if e matches .unmarked _ then .byteOrder else .decoding) e.message

/-- The text of bytes in a character set. -/
def textOf (charset : Charset) (bytes : List UInt8) : Except Fault String :=
  match charset.decode bytes with
  | .ok cs => .ok (String.ofList (unifyLines cs))
  | .error e => .error (decodeFault e)

/-- **The text** of the file at a path. -/
def readText (t : Tree) (cwd : Location) (charset : Charset) (p : Path) : Except Fault String := do
  let bytes ← (t.readBytes cwd p).mapError (FileFault.toFault p.render)
  textOf charset bytes

/-! ### Changes -/

/-- The tree with an entry put at a location. -/
def put (t : Tree) (l : Location) (e : Entry) : Tree :=
  ⟨(l, e) :: t.entries.filter fun x => x.1 != l⟩

/-- The tree with a directory at a location and at every one above it. -/
def makeDirectory (t : Tree) (l : Location) : Tree :=
  (List.range (l.length + 1)).foldl (fun t n =>
    if (t.entry? (l.take n)).isSome then t else t.put (l.take n) .directory) t

/-- The tree with a file written, and the directories above it. -/
def write (t : Tree) (l : Location) (bytes : List UInt8) : Tree :=
  (t.makeDirectory l.dropLast).put l (.file bytes)

/-- The tree without what is at or below a location. -/
def remove (t : Tree) (l : Location) : Tree :=
  ⟨t.entries.filter fun x => x.1.take l.length != l⟩

end Tree

end ItemCatalog.Files
