import ItemCatalog.Config.Placeholder
import ItemCatalog.Text.Blank

/-! # Environment files: variables in a text

An environment file has a variable on each line: a name, an equals sign and a value, which may be
quoted. After a value may stand a comment; a line that is neither is left out. Names in braces
inside a value stand for variables of the environment, or of the lines above, or for their defaults.
A variable that is set already keeps its value. -/

namespace ItemCatalog.Config

open Text

/-- A line of an environment file: a variable, and its value if an equals sign follows. -/
structure Binding where
  name : List Char
  value : Option (List Char)
deriving DecidableEq, Repr

/-- Whether a character ends a line. -/
def isLineEnd (c : Char) : Bool :=
  c == '\n' || c == '\r'

/-- Whether a character is a blank inside a line. -/
def isInlineBlank (c : Char) : Bool :=
  isBlank c && !isLineEnd c

/-- The characters after the rest of a line. -/
def dropLine (cs : List Char) : List Char :=
  match cs.dropWhile (!isLineEnd ·) with
  | '\r' :: '\n' :: rest => rest
  | _ :: rest => rest
  | [] => []

/-- The text between quotes `q`, and what stands after it. A quote after a backslash belongs to the
text, unless no other quote closes it. -/
def quotedPart (q : Char) : List Char → Option (List Char × List Char)
  | [] => none
  | '\\' :: c :: cs =>
    if c = q then
      match quotedPart q cs with
      | some (part, rest) => some ('\\' :: c :: part, rest)
      | none => some (['\\'], cs)
    else (quotedPart q (c :: cs)).map fun r => ('\\' :: r.1, r.2)
  | c :: cs => if c = q then some ([], cs) else (quotedPart q cs).map fun r => (c :: r.1, r.2)

/-- The escapes of a single-quoted value. -/
def singleEscapes : List (Char × Char) :=
  [('\\', '\\'), ('\'', '\'')]

/-- The escapes of a double-quoted value. -/
def doubleEscapes : List (Char × Char) :=
  [('\\', '\\'), ('\'', '\''), ('"', '"'), ('a', '\x07'), ('b', '\x08'), ('f', '\x0c'), ('n', '\n'),
   ('r', '\r'), ('t', '\t'), ('v', '\x0b')]

/-- The characters with their escapes resolved. -/
def resolveEscapes (escapes : List (Char × Char)) : List Char → List Char
  | '\\' :: c :: cs =>
    match escapes.lookup c with
    | some d => d :: resolveEscapes escapes cs
    | none => '\\' :: resolveEscapes escapes (c :: cs)
  | c :: cs => c :: resolveEscapes escapes cs
  | [] => []

/-- The characters up to a comment, which is a hash sign after a blank. -/
def dropComment : List Char → List Char
  | [] => []
  | c :: cs =>
    if isBlank c && ((c :: cs).dropWhile isBlank).head? == some '#' then [] else c :: dropComment cs

/-- The characters without the blanks at their end. -/
def dropLastBlanks (cs : List Char) : List Char :=
  (cs.reverse.dropWhile isBlank).reverse

/-- A value, and what stands after it. -/
def readValue (cs : List Char) : Option (List Char × List Char) :=
  match cs with
  | '\'' :: rest => (quotedPart '\'' rest).map fun r => (resolveEscapes singleEscapes r.1, r.2)
  | '"' :: rest => (quotedPart '"' rest).map fun r => (resolveEscapes doubleEscapes r.1, r.2)
  | cs =>
    some (dropLastBlanks (dropComment (cs.takeWhile (!isLineEnd ·))),
      cs.dropWhile (!isLineEnd ·))

/-- The word that may stand in front of a name. -/
def dropExport (cs : List Char) : List Char :=
  match cs with
  | 'e' :: 'x' :: 'p' :: 'o' :: 'r' :: 't' :: rest =>
    if rest.head?.any isInlineBlank then rest.dropWhile isInlineBlank else cs
  | _ => cs

/-- The name of a variable, none in a line that is a comment, and what stands after it. -/
def readName (cs : List Char) : Option (List Char × List Char) :=
  match cs with
  | '#' :: _ => some ([], cs)
  | '\'' :: rest =>
    match rest.span (· != '\'') with
    | (n :: name, _ :: rest) => some (n :: name, rest)
    | _ => none
  | cs =>
    let isChar := fun c => c != '=' && c != '#' && !isBlank c
    match cs.span isChar with
    | ([], _) => none
    | (name, rest) => some (name, rest)

/-- What stands after a comment and the end of its line; nothing if anything else comes first. -/
def lineEnd? (cs : List Char) : Option (List Char) :=
  let cs := match cs.dropWhile isInlineBlank with
    | '#' :: rest => rest.dropWhile (!isLineEnd ·)
    | rest => rest
  match cs with
  | [] => some []
  | '\r' :: '\n' :: rest => some rest
  | c :: rest => if isLineEnd c then some rest else none

/-- What was read, or the place where reading failed. -/
def orPlace {α : Type} (place : List Char) (read : Option α) : Except (List Char) α :=
  read.elim (.error place) .ok

/-- A line with a variable or a comment, and what stands after it, or else the place from which on
it makes no sense. -/
def readLine (cs : List Char) : Except (List Char) (Option Binding × List Char) := do
  let cs := dropExport cs
  let (name, cs) ← orPlace cs (readName cs)
  let (value, cs) ← match cs.dropWhile isInlineBlank with
    | '=' :: rest =>
      let cs := rest.dropWhile isInlineBlank
      (fun r => (some r.1, r.2)) <$> orPlace cs (readValue cs)
    | cs => .ok (none, cs)
  let rest ← orPlace cs (lineEnd? cs)
  return (if name.isEmpty then none else some ⟨name, value⟩, rest)

/-- The variables of a text. -/
def readBindings : Nat → List Char → List Binding
  | 0, _ => []
  | fuel + 1, cs =>
    match cs.dropWhile isBlank with
    | [] => []
    | cs =>
      match readLine cs with
      | .ok (binding, rest) => binding.toList ++ readBindings fuel rest
      | .error place => readBindings fuel (dropLine place)

/-! ### Values -/

/-- A name in braces, from the character after the opening brace on: the name, its default and the
count of characters up to the closing brace. -/
def bracedName? (cs : List Char) : Option (List Char × List Char × Nat) :=
  let name := cs.takeWhile isBracedChar
  match cs.dropWhile isBracedChar with
  | '\x7d' :: _ => some (name, [], name.length + 1)
  | ':' :: '-' :: rest =>
    let default := rest.takeWhile (· != '\x7d')
    if (rest.dropWhile (· != '\x7d')).isEmpty then none
    else some (name, default, name.length + default.length + 3)
  | _ => none

/-- The characters with the names in braces filled; `skip` characters belong to the last name. -/
def fillChars (known : String → Option String) : Nat → List Char → List Char
  | _, [] => []
  | skip + 1, _ :: cs => fillChars known skip cs
  | 0, c :: cs =>
    match c, cs with
    | '$', '\x7b' :: rest =>
      match bracedName? rest with
      | some (name, default, n) =>
        ((known (String.ofList name)).map String.toList).getD default ++ fillChars known (n + 1) cs
      | none => c :: fillChars known 0 cs
    | _, _ => c :: fillChars known 0 cs

/-- The variables of a file, some of them without a value, the last one first. -/
abbrev FileVariables := List (String × Option String)

/-- The value of a name inside a file: a variable without a value counts as empty. -/
def known? (env : Environment) (found : FileVariables) (name : String) : Option String :=
  (env.get? name).or ((found.lookup name).map (·.getD ""))

/-- The variables of a file with their values filled, one after the other. -/
def fillBindings (env : Environment) : List Binding → FileVariables → FileVariables
  | [], found => found
  | b :: bs, found =>
    let value := b.value.map fun v => String.ofList (fillChars (known? env found) 0 v)
    fillBindings env bs ((String.ofList b.name, value) :: found)

/-- **The environment** with the variables of a file, except those that are set already. -/
def withEnvFile (env : Environment) (text : String) : Environment :=
  let cs := match text.toList with
    | '\ufeff' :: rest => rest
    | cs => cs
  let found := fillBindings env (readBindings (cs.length + 1) cs) []
  let names := (found.map (·.1)).eraseDups.filter fun name => (env.get? name).isNone
  names.foldl (fun acc name => (found.lookup name).join.elim acc (acc.set name)) env

end ItemCatalog.Config
