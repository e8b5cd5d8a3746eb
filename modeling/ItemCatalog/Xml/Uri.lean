import ItemCatalog.Xml.Lexeme

/-! # Uniform identifiers: how addresses are written

The address of a space of names, and that of an entity outside, is a uniform identifier: a scheme
and a colon, or neither, then an authority after two slashes or none, a path, a query after a
question mark and a fragment after a hash sign. A character that has no place in these parts is
written as a percent sign and two hexadecimal digits. -/

namespace ItemCatalog.Xml.Uri

/-- Whether a character is plain in a name of a host. -/
def isPlain (c : Char) : Bool :=
  c.isAlphanum || "-._~!$&'()*+,;=".toList.contains c

/-- Whether a character is plain in a step of a path. -/
def isStepChar (c : Char) : Bool :=
  isPlain c || c == ':' || c == '@'

/-- The characters after those with a property and those that are written by a percent sign. -/
def skip (p : Char → Bool) : List Char → List Char
  | [] => []
  | '%' :: a :: b :: cs =>
    if (hexValue a).isSome && (hexValue b).isSome then skip p cs else '%' :: a :: b :: cs
  | c :: cs => if p c then skip p cs else c :: cs

/-- The characters after a path. -/
def skipPath (cs : List Char) : List Char :=
  skip (fun c => isStepChar c || c == '/') cs

/-- Whether nothing but a query and a fragment is left, or neither. -/
def endsHere (cs : List Char) : Bool :=
  let cs := match cs with
    | '?' :: rest => skip (fun c => isStepChar c || c == '/' || c == '?') rest
    | cs => cs
  match cs with
  | '#' :: rest => (skip (fun c => isStepChar c || "/?[]".toList.contains c) rest).isEmpty
  | cs => cs.isEmpty

/-- The characters after the host and the port of an authority. -/
def skipHost (cs : List Char) : Option (List Char) := do
  let rest ← match cs with
    | '[' :: rest => (upTo [']'] rest).map (·.2)
    | cs => some (skip isPlain cs)
  match rest with
  | ':' :: rest => if rest.head?.any Char.isDigit then some (rest.dropWhile Char.isDigit) else none
  | rest => some rest

/-- The characters after an authority. -/
def skipAuthority (cs : List Char) : Option (List Char) :=
  match skip (fun c => isPlain c || c == ':') cs with
  | '@' :: rest => skipHost rest
  | _ => skipHost cs

/-- Whether characters are an authority and a path, or a path alone, up to the end. -/
def isHierarchy (cs : List Char) : Bool :=
  match cs with
  | '/' :: '/' :: rest =>
    match skipAuthority rest with
    | some rest => endsHere (if rest.head? = some '/' then skipPath rest else rest)
    | none => false
  | cs => endsHere (skipPath cs)

/-- The characters after a scheme and its colon. -/
def afterScheme (cs : List Char) : Option (List Char) :=
  let isChar := fun c : Char => c.isAlphanum || c == '+' || c == '-' || c == '.'
  if cs.head?.any Char.isAlpha then after [':'] (cs.dropWhile isChar) else none

/-- Whether there is no colon in the first step of a path. -/
def startsWithoutScheme (cs : List Char) : Bool :=
  !(cs.takeWhile fun c => !"/?#".toList.contains c).contains ':'

/-- **Whether characters are a uniform identifier,** with or without a scheme. -/
def isUri (cs : List Char) : Bool :=
  (afterScheme cs).any isHierarchy || (startsWithoutScheme cs && isHierarchy cs)

end ItemCatalog.Xml.Uri
