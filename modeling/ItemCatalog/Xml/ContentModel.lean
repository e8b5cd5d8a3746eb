import ItemCatalog.Xml.Lexeme

/-! # Content models: what an element may hold

The declaration of an element says that it is empty, that it may hold anything, or what it holds: a
mixture of text and named elements, or a row or choice of names and groups, each with a sign of how
often it comes. Only the form of a declaration counts here; elements are not compared with it. -/

namespace ItemCatalog.Xml.ContentModel

/-- The characters after a sign of how often a part comes, if there is one. -/
def skipCount (cs : List Char) : List Char :=
  match cs with
  | '?' :: rest => rest
  | '*' :: rest => rest
  | '+' :: rest => rest
  | rest => rest

/-- The characters after the names of a mixture, from the sign in front of one on. -/
def mixedNames : Nat → List Char → Option (List Char)
  | 0, _ => none
  | fuel + 1, cs =>
    match cs with
    | ')' :: '*' :: rest => some rest
    | '|' :: rest => do
      let (_, rest) ← name (skipSpace rest)
      mixedNames fuel (skipSpace rest)
    | _ => none

/-- The characters after a mixture, from behind the word for text on. -/
def mixture (cs : List Char) : Option (List Char) :=
  match skipSpace cs with
  | ')' :: '*' :: rest => some rest
  | ')' :: rest => some rest
  | cs => mixedNames (cs.length + 1) cs

mutual

/-- The characters after a name or a group. -/
def part : Nat → List Char → Option (List Char)
  | 0, _ => none
  | fuel + 1, cs =>
    match cs with
    | '(' :: rest => group fuel none rest
    | cs => (name cs).map fun r => skipCount r.2

/-- The characters after the parts of a group, which all have the same separator between them; it is
given after the first one. -/
def group : Nat → Option Char → List Char → Option (List Char)
  | 0, _, _ => none
  | fuel + 1, separator, cs => do
    match skipSpace (← part fuel (skipSpace cs)) with
    | ')' :: rest => some (skipCount rest)
    | c :: rest =>
      if (c == ',' || c == '|') && separator.all (· == c) then group fuel (some c) rest else none
    | [] => none

end

/-- **The characters after a content model.** -/
def read (cs : List Char) : Option (List Char) :=
  match afterWord "EMPTY" cs, afterWord "ANY" cs, after ['('] cs with
  | some rest, _, _ => some rest
  | _, some rest, _ => some rest
  | _, _, some rest =>
    match afterWord "#PCDATA" (skipSpace rest) with
    | some rest => mixture rest
    | none => group (2 * rest.length + 2) none rest
  | none, none, none => none

end ItemCatalog.Xml.ContentModel
