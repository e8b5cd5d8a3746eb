import ItemCatalog.Text.Split

/-! # Wrapped texts: lines of a limited width

A text is broken at its blanks, and inside of words after a hyphen between letters. Every line takes
as many chunks as it has room for; a chunk that is wider than a line stands alone. -/

namespace ItemCatalog.Text

/-- A chunk of a text, and whether a blank stands before it. -/
structure Chunk where
  apart : Bool
  chars : List Char
deriving DecidableEq, Repr, Inhabited

/-- Whether a line can end after the last of the characters `before`, which are reversed. -/
def breaksAfter (before after : List Char) : Bool :=
  match before, after with
  | '-' :: b :: a :: _, c :: d :: _ => a.isAlpha && b.isAlpha && c.isAlpha && d.isAlpha
  | _, _ => false

/-- The chunks of a word after the characters `before`, which stand in reverse order; the chunk that
is being read is `chunk`, in reverse order too. -/
def wordChunks (apart : Bool) (before chunk : List Char) : List Char → List Chunk
  | [] => if chunk.isEmpty then [] else [⟨apart, chunk.reverse⟩]
  | c :: cs =>
    if breaksAfter (c :: before) cs then
      ⟨apart, (c :: chunk).reverse⟩ :: wordChunks false (c :: before) [] cs
    else wordChunks apart (c :: before) (c :: chunk) cs

/-- The chunks of a text. -/
def chunksOf (text : String) : List Chunk :=
  ((cut ' ' text).filter (· ≠ "")).flatMap fun w => wordChunks true [] [] w.toList

/-- The lines of chunks after a line that is begun; `room` is the width of that line, `next` that of
the others. -/
def fillLines (next : Nat) : Nat → List Char → List Chunk → List (List Char)
  | _, line, [] => if line.isEmpty then [] else [line]
  | room, line, p :: ps =>
    if line.isEmpty then fillLines next room p.chars ps
    else
      let longer := line ++ (if p.apart then ' ' :: p.chars else p.chars)
      if longer.length ≤ room then fillLines next room longer ps
      else line :: fillLines next next p.chars ps

/-- **The lines** of a text, behind an indent for the first and one for the others, in a width that
counts the indents. -/
def wrap (width : Nat) (first rest text : String) : List String :=
  let lines := fillLines (width - rest.length) (width - first.length) [] (chunksOf text)
  match lines with
  | [] => []
  | l :: ls => (first ++ String.ofList l) :: ls.map fun l => rest ++ String.ofList l

end ItemCatalog.Text
