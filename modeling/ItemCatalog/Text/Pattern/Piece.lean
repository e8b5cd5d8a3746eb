import ItemCatalog.Text.Pattern.Basic
import ItemCatalog.Text.Pattern.Complaint

/-! # Pieces: the text of a pattern while it is read

The text is read as a list of *pieces*: a character, or a backslash with the character after it. A
backslash at the end of the text is refused as soon as it comes next. -/

namespace ItemCatalog.Text.Pattern

/-- A piece of a text, with the count of characters before it. -/
structure Piece where
  chars : List Char
  place : Nat
deriving DecidableEq, Repr, Inhabited

/-- The pieces of a text from a place on. -/
def pieces (place : Nat) : List Char → List Piece
  | '\\' :: c :: cs => ⟨['\\', c], place⟩ :: pieces (place + 2) cs
  | c :: cs => ⟨[c], place⟩ :: pieces (place + 1) cs
  | [] => []

/-- How the characters of a pattern are meant: letters of either case are alike, starts and ends are
those of lines, the point also stands for a line end, blanks and comments are skipped, classes hold
characters of ASCII only. -/
structure Modes where
  anyCase : Bool := false
  lines : Bool := false
  pointAll : Bool := false
  spaced : Bool := false
  plain : Bool := false
deriving DecidableEq, Repr, Inhabited

/-- Which letters are alike. -/
def Modes.likeness (m : Modes) : Likeness :=
  if m.anyCase then (if m.plain then .plain else .full) else .exact

/-- What is known while a text is read: what is left of it and its size; the count of groups that
were opened, those that were closed, with the widths of what they hold, the names of groups, and
those that were asked for before they were opened; and, inside a look at what comes before, the
count of groups outside, and whether it has no fixed width. -/
structure Reader where
  rest : List Piece
  size : Nat
  opened : Nat := 0
  closed : List (Nat × Option Nat) := []
  names : List (String × Nat) := []
  wanted : List (Nat × Nat) := []
  lookStart : Option Nat := none
  openWidth : Bool := false
deriving Inhabited

/-- Reading, which stops at a complaint about a place. -/
abbrev Reading := StateT Reader (Except (Complaint × Option Nat))

/-! ### Pieces -/

/-- The place of the next piece. -/
def here : Reading Nat := do
  let r ← get
  return (r.rest.head?.map Piece.place).getD r.size

/-- Stops with a complaint about the place some characters before the next piece. -/
def complain {α : Type} (c : Complaint) (back : Nat := 0) : Reading α := do
  throw (c, some ((← here) - back))

/-- Goes on with the pieces `rest`, unless the next is a backslash at the end of the text. -/
def goOn (rest : List Piece) : Reading Unit := do
  if rest.head?.any fun p => p.chars == ['\\'] then
    throw (.badEnd, some ((← get).size - 1))
  modify fun r => { r with rest }

/-- The characters of the next piece. -/
def peek : Reading (List Char) := do
  return ((← get).rest.head?.map Piece.chars).getD []

/-- Takes the next piece; the empty one at the end. -/
def take : Reading (List Char) := do
  match (← get).rest with
  | [] => return []
  | p :: rest =>
    goOn rest
    return p.chars

/-- Takes the next piece if it is a character. -/
def skip (c : Char) : Reading Bool := do
  if (← peek) == [c] then
    discard take
    return true
  return false

/-- Takes up to a number of characters that fulfil a condition. -/
def takeUpTo (ok : Char → Bool) : Nat → Reading (List Char)
  | 0 => return []
  | n + 1 => do
    match ← peek with
    | [c] =>
      if ok c then
        discard take
        return c :: (← takeUpTo ok n)
      else return []
    | _ => return []

/-- Takes the characters of a name up to the closing one. -/
def takeName (closer : Char) (what : String) : Nat → List Char → Reading (List Char)
  | 0, name => return name
  | n + 1, name => do
    match ← take with
    | [] =>
      if name.isEmpty then complain (.noName what)
      complain (.unclosedName closer.toString) name.length
    | cs =>
      if cs == [closer] then
        if name.isEmpty then complain (.noName what) 1
        return name
      takeName closer what n (name ++ cs)

/-- The name up to the closing character. -/
def readName (closer : Char) (what : String) : Reading (List Char) := do
  takeName closer what ((← get).rest.length + 1) []

end ItemCatalog.Text.Pattern
