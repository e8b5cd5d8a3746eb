import ItemCatalog.Text.Split
import ItemCatalog.Xml.Lexeme

/-! # Attribute types: which values an attribute may have

A declared attribute has a type: any text, the identity of its element, one or more names, or one or
more tokens, which may also be given as a list of choices. A default value has to fit its type. -/

namespace ItemCatalog.Xml

/-- Whether no value stands twice in a list. -/
def allDistinct {α : Type} [BEq α] : List α → Bool
  | [] => true
  | x :: xs => !xs.contains x && allDistinct xs

/-- Whether characters are a name. -/
def isName (cs : List Char) : Bool :=
  (name cs).any fun r => r.2.isEmpty

/-- Whether characters are a token. -/
def isToken (cs : List Char) : Bool :=
  !cs.isEmpty && cs.all isNameChar

/-- A token. -/
def token : Reader (List Char) := fun cs =>
  let t := cs.takeWhile isNameChar
  if t.isEmpty then none else some (t, cs.dropWhile isNameChar)

/-- The type of a declared attribute: any text, in which all spaces count, a name that no other
element has as its identity, or names or tokens, one or several with spaces between them. -/
inductive AttributeType where
  | free
  | identity
  | name
  | names
  | token
  | tokens
deriving DecidableEq, Repr, Inhabited

namespace AttributeType

/-- The words for types; a word stands in front of its own beginnings. -/
def words : List (String × AttributeType) :=
  [("CDATA", .free), ("IDREFS", .names), ("IDREF", .name), ("ID", .identity),
   ("ENTITIES", .names), ("ENTITY", .name), ("NMTOKENS", .tokens), ("NMTOKEN", .token)]

/-- The choices up to a closing bracket. -/
def choices (one : Reader (List Char)) : Nat → Reader (List (List Char))
  | 0, _ => none
  | fuel + 1, cs => do
    let (choice, cs) ← one (skipSpace cs)
    match skipSpace cs with
    | ')' :: rest => return ([choice], rest)
    | '|' :: rest =>
      let (more, rest) ← choices one fuel rest
      return (choice :: more, rest)
    | _ => none

/-- A list of choices in brackets, none of which stands there twice. -/
def choiceList (one : Reader (List Char)) (t : AttributeType) : Reader AttributeType := fun cs => do
  let cs ← after ['('] cs
  let (found, rest) ← choices one (cs.length + 1) cs
  if allDistinct found then some (t, rest) else none

/-- **The type** that is written. -/
def read : Reader AttributeType := fun cs =>
  match words.findSome? fun e => (afterWord e.1 cs).map fun rest => (e.2, rest) with
  | some r => some r
  | none =>
    match afterWord "NOTATION" cs with
    | some rest => (someSpace rest).bind (choiceList Xml.name .name)
    | none => choiceList Xml.token .token cs

/-- The words of a value with one space between them. -/
def singleSpaced (cs : List Char) : List Char :=
  (" ".intercalate ((Text.cut ' ' (String.ofList cs)).filter (· ≠ ""))).toList

/-- A value as it counts under a type. -/
def normalize (t : AttributeType) (cs : List Char) : List Char :=
  if t = .free then cs else singleSpaced cs

/-- **Whether a value fits** a type. -/
def admits (t : AttributeType) (cs : List Char) : Bool :=
  let parts := (Text.cut ' ' (String.ofList cs)).map String.toList
  match t with
  | .free => true
  | .identity => isName cs
  | .name => isName cs
  | .names => parts.all isName
  | .token => isToken cs
  | .tokens => parts.all isToken

end AttributeType

end ItemCatalog.Xml
