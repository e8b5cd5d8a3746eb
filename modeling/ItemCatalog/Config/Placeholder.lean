import ItemCatalog.Log.Component

/-! # Placeholders: texts that are filled from the environment

A placeholder is a dollar sign in front of a name, or in front of braces with a name and, after a
colon and a minus, a default. The name in braces is any text without a closing brace and a colon,
the one without braces is a letter or underscore and then letters, digits and underscores. A
placeholder stands for the variable of its name, or else for its default; without either it stays as
it is, and that is noted. What is put in is not looked at again. -/

namespace ItemCatalog

/-- The variables of the environment. -/
abbrev Environment := List (String × String)

namespace Environment

/-- The value of a variable. -/
def get? (env : Environment) (name : String) : Option String :=
  env.lookup name

/-- The environment with a variable set. -/
def set (env : Environment) (name value : String) : Environment :=
  (name, value) :: env.filter fun e => e.1 != name

/-- The environment without a variable. -/
def unset (env : Environment) (name : String) : Environment :=
  env.filter fun e => e.1 != name

end Environment

namespace Config

/-- A placeholder in a text: the name of its variable, what stands in for one that is not set, and
the placeholder as it is written. -/
structure Placeholder where
  name : List Char
  default : Option (List Char)
  written : List Char
deriving DecidableEq, Repr

/-- Whether a character can start a name without braces. -/
def isNameStart (c : Char) : Bool :=
  c.isAlpha || c == '_'

/-- Whether a character can be part of a name without braces. -/
def isNameChar (c : Char) : Bool :=
  isNameStart c || c.isDigit

/-- Whether a character can be part of a name in braces. -/
def isBracedChar (c : Char) : Bool :=
  c != '\x7d' && c != ':'

/-- Whether a character can be part of a default. -/
def isDefaultChar (c : Char) : Bool :=
  c != '\x7d' && c != '\n'

/-- A placeholder in braces, from the character after the opening brace on. -/
def braced? (cs : List Char) : Option Placeholder :=
  let name := cs.takeWhile isBracedChar
  let opening := ['$', '\x7b']
  if name.isEmpty then none
  else match cs.dropWhile isBracedChar with
    | '\x7d' :: _ => some ⟨name, none, opening ++ name ++ ['\x7d']⟩
    | ':' :: '-' :: rest =>
      let default := rest.takeWhile isDefaultChar
      match rest.dropWhile isDefaultChar with
      | '\x7d' :: _ =>
        some ⟨name, some default, opening ++ name ++ [':', '-'] ++ default ++ ['\x7d']⟩
      | _ => none
    | _ => none

/-- A placeholder without braces, from the character after the dollar sign on. -/
def bare? (cs : List Char) : Option Placeholder :=
  match cs with
  | c :: rest =>
    if isNameStart c then
      let name := c :: rest.takeWhile isNameChar
      some ⟨name, none, '$' :: name⟩
    else none
  | [] => none

/-- The placeholder after a dollar sign. -/
def placeholder? (cs : List Char) : Option Placeholder :=
  match cs with
  | '\x7b' :: rest => braced? rest
  | cs => bare? cs

/-- The note about a variable that is not set. -/
def unsetNote (name : String) : Log.Record :=
  Log.config Log.info s!"Environment variable '{name}' not found, keeping original value"

/-- What a placeholder stands for. -/
def Placeholder.fill (env : Environment) (p : Placeholder) : List Char × List Log.Record :=
  let name := String.ofList p.name
  match env.get? name, p.default with
  | some v, _ => (v.toList, [])
  | none, some d => (d, [])
  | none, none => (p.written, [unsetNote name])

/-- The characters with their placeholders filled; `skip` characters belong to the last one. -/
def expandChars (env : Environment) : Nat → List Char → List Char × List Log.Record
  | _, [] => ([], [])
  | skip + 1, _ :: cs => expandChars env skip cs
  | 0, c :: cs =>
    match if c = '$' then placeholder? cs else none with
    | some p =>
      let (text, log) := p.fill env
      let (rest, more) := expandChars env (p.written.length - 1) cs
      (text ++ rest, log ++ more)
    | none =>
      let (rest, log) := expandChars env 0 cs
      (c :: rest, log)

/-- **A text with its placeholders filled.** -/
def expandText (env : Environment) (s : String) : String × List Log.Record :=
  let (cs, log) := expandChars env 0 s.toList
  (String.ofList cs, log)

mutual

/-- **A value with the placeholders of its texts filled:** in the elements of lists and the values
of mappings, however deep. -/
def expand (env : Environment) : Value → Value × List Log.Record
  | .scalar (.text s) =>
    let (t, log) := expandText env s
    (.text t, log)
  | .list items =>
    let (vs, log) := expandAll env items
    (.list vs, log)
  | .map entries =>
    let (es, log) := expandEntries env entries
    (.map es, log)
  | v => (v, [])

/-- `expand` on every value of a list. -/
def expandAll (env : Environment) : List Value → List Value × List Log.Record
  | [] => ([], [])
  | v :: vs =>
    let (w, log) := expand env v
    let (ws, more) := expandAll env vs
    (w :: ws, log ++ more)

/-- `expand` on every value of a mapping. -/
def expandEntries (env : Environment) : Entries → Entries × List Log.Record
  | [] => ([], [])
  | (k, v) :: rest =>
    let (w, log) := expand env v
    let (es, more) := expandEntries env rest
    ((k, w) :: es, log ++ more)

end

end Config

end ItemCatalog
