import ItemCatalog.Yaml.Fault

/-! # Cursors: a place in a document

A cursor is the rest of the characters with the place where it starts: the count of characters
before it, its line and its column. A byte order mark does not take a column. -/

namespace ItemCatalog.Yaml

/-- Whether a character ends a line. -/
def isBreak (c : Char) : Bool :=
  c == '\n' || c == '\r' || c == '\x85' || c == '\u2028' || c == '\u2029'

/-- Whether a character is a space or ends a line. -/
def isSpaceOrBreak (c : Char) : Bool :=
  c == ' ' || isBreak c

/-- Whether a character is a space, a tab or ends a line. -/
def isSeparator (c : Char) : Bool :=
  c == '\t' || isSpaceOrBreak c

/-- Whether a place holds the end of the text or a character with a property. -/
def endOr (p : Char → Bool) (c : Option Char) : Bool :=
  c.all p

/-- Whether a character may stand in a document. -/
def isAllowed (c : Char) : Bool :=
  let n := c.toNat
  n == 9 || n == 10 || n == 13 || (0x20 ≤ n && n ≤ 0x7e) || n == 0x85 || (0xa0 ≤ n && n ≤ 0xd7ff) ||
    (0xe000 ≤ n && n ≤ 0xfffd) || 0x10000 ≤ n

/-- A place in a document: the characters from it on, how many characters and lines come before it,
and how many characters in its line. -/
structure Cursor where
  rest : List Char
  index : Nat := 0
  line : Nat := 0
  column : Nat := 0
deriving Repr, Inhabited

namespace Cursor

/-- The character at a place. -/
def peek? (c : Cursor) : Option Char :=
  c.rest.head?

/-- The character `n` places ahead. -/
def ahead? (c : Cursor) (n : Nat) : Option Char :=
  c.rest[n]?

/-- Whether the character at a place is `x`. -/
def holds (c : Cursor) (x : Char) : Bool :=
  c.peek? == some x

/-- Whether the character at a place has a property. -/
def atAny (c : Cursor) (p : Char → Bool) : Bool :=
  c.peek?.any p

/-- The next place. -/
def next (c : Cursor) : Cursor :=
  match c.rest with
  | [] => c
  | x :: rest =>
    let lineEnds := x == '\n' || x == '\x85' || x == '\u2028' || x == '\u2029' ||
      (x == '\r' && rest.head? != some '\n')
    if lineEnds then ⟨rest, c.index + 1, c.line + 1, 0⟩
    else ⟨rest, c.index + 1, c.line, if x == '\ufeff' then c.column else c.column + 1⟩

/-- The place `n` characters on. -/
def skip (c : Cursor) : Nat → Cursor
  | 0 => c
  | n + 1 => c.next.skip n

/-- The characters with a property up to the first without, and the place of that. -/
def takeWhile (p : Char → Bool) (c : Cursor) : List Char × Cursor :=
  let taken := c.rest.takeWhile p
  (taken, c.skip taken.length)

/-- The place after the characters with a property. -/
def skipWhile (p : Char → Bool) (c : Cursor) : Cursor :=
  (c.takeWhile p).2

/-- The line end at a place, if there is one, and the place after it. All ends of one line are the
same except the two separators of lines and paragraphs, which stay. -/
def lineBreak (c : Cursor) : Option Char × Cursor :=
  match c.rest with
  | '\r' :: '\n' :: _ => (some '\n', c.skip 2)
  | x :: _ =>
    if x == '\r' || x == '\n' || x == '\x85' then (some '\n', c.next)
    else if x == '\u2028' || x == '\u2029' then (some x, c.next)
    else (none, c)
  | [] => (none, c)

/-- Whether a marker of three equal characters stands at a place, apart from what follows. -/
def atMarker (x : Char) (c : Cursor) : Bool :=
  c.rest.take 3 == [x, x, x] && endOr isSeparator (c.ahead? 3)

/-- Whether the start or the end of a document is marked at a place. -/
def atDocumentMarker (c : Cursor) : Bool :=
  c.atMarker '-' || c.atMarker '.'

end Cursor

end ItemCatalog.Yaml
