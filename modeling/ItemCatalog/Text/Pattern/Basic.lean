import ItemCatalog.Text.Pattern.CharSet

/-! # Patterns: what is looked for in texts

A pattern says which parts of a text are found. From a place on, the ways to find it are tried in
the order of preference, and the first is taken after which the *rest* of the search succeeds as
well. A repetition goes on only as long as the place moves, so it needs no more rounds than the text
has characters. -/

namespace ItemCatalog.Text

/-- A pattern: nothing; a character of a set, up to letters that count as alike; one pattern after
another, or one of two, the first preferred; a pattern so many times, as seldom as possible if
`lazy`; a pattern in the first way it is found, and in no other; the start or the end of the text,
or of its lines, and its very end; the border of a word, or no such border if `inside`; a pattern
that is found here, or so many characters before, or is not, if `absent`; a group under a number,
what it holds once more, and one of two patterns by whether it holds something. -/
inductive Pattern where
  | empty
  | char (s : CharSet) (like : Likeness)
  | seq (p q : Pattern)
  | alt (p q : Pattern)
  | repeated (p : Pattern) (least : Nat) (most : Option Nat) (lazy : Bool)
  | whole (p : Pattern)
  | start (lines : Bool)
  | finish (lines : Bool)
  | last
  | border (plain inside : Bool)
  | look (back : Nat) (absent : Bool) (p : Pattern)
  | group (n : Nat) (p : Pattern)
  | again (n : Nat) (like : Likeness)
  | ifGroup (n : Nat) (p q : Pattern)
deriving Repr, Inhabited

namespace Pattern

/-- A place in a text: how many characters come before it, and the starts and ends of what groups
hold. -/
structure Place where
  index : Nat
  groups : List (Nat × Nat × Nat) := []
deriving DecidableEq, Repr, Inhabited

/-- What is still to be found after a place. -/
abbrev Rest := Place → Option Place

/-! ### Repetitions -/

/-- Finds something a number of times. -/
def times (find : Place → Rest → Option Place) : Nat → Place → Rest → Option Place
  | 0, x, rest => rest x
  | n + 1, x, rest => find x fun y => times find n y rest

/-- Finds something up to a number of times, and no more once the place stays. -/
def upTo (find : Place → Rest → Option Place) (lazy : Bool) : Nat → Place → Rest → Option Place
  | 0, x, rest => rest x
  | n + 1, x, rest =>
    let more := fun _ : Unit =>
      find x fun y => if y.index = x.index then rest y else upTo find lazy n y rest
    if lazy then (rest x).orElse more else (more ()).orElse fun _ => rest x

/-! ### Places -/

/-- Whether a place is the border of a word. -/
def isBorder (plain : Bool) (text : Array Char) (i : Nat) : Bool :=
  let isWord := (CharSet.word plain).has .exact
  let before := 0 < i && (text[i - 1]?).any isWord
  let after := (text[i]?).any isWord
  before != after

/-- Whether a place is at the start. -/
def atStart (lines : Bool) (text : Array Char) (i : Nat) : Bool :=
  i = 0 || (lines && text[i - 1]? == some '\n')

/-- Whether a place is at the end. -/
def atEnd (lines : Bool) (text : Array Char) (i : Nat) : Bool :=
  i = text.size || (text[i]? == some '\n' && (lines || i + 1 = text.size))

/-- Whether the `count` characters from a place on are those from another place on. -/
def sameFrom (like : Likeness) (text : Array Char) (i first count : Nat) : Bool :=
  (List.range count).all fun k =>
    match text[first + k]?, text[i + k]? with
    | some c, some d => (CharSet.between c.toNat c.toNat).has like d
    | _, _ => false

/-! ### Finding -/

/-- **Finds a pattern** from a place on, and then the rest; gives the place where all ends. -/
def find (text : Array Char) : Pattern → Place → Rest → Option Place
  | .empty, x, rest => rest x
  | .char s like, x, rest =>
    match text[x.index]? with
    | some c => if s.has like c then rest { x with index := x.index + 1 } else none
    | none => none
  | .seq p q, x, rest => find text p x fun y => find text q y rest
  | .alt p q, x, rest => (find text p x rest).orElse fun _ => find text q x rest
  | .repeated p least most lazy, x, rest =>
    let rounds := (most.map (· - least)).getD (text.size + 1)
    times (find text p) least x fun y => upTo (find text p) lazy rounds y rest
  | .whole p, x, rest => (find text p x some).bind rest
  | .start lines, x, rest => if atStart lines text x.index then rest x else none
  | .finish lines, x, rest => if atEnd lines text x.index then rest x else none
  | .last, x, rest => if x.index = text.size then rest x else none
  | .border plain inside, x, rest =>
    if isBorder plain text x.index != inside then rest x else none
  | .look back absent p, x, rest =>
    let found :=
      if back ≤ x.index then find text p { x with index := x.index - back } some else none
    match found, absent with
    | some y, false => rest { y with index := x.index }
    | none, true => rest x
    | _, _ => none
  | .group n p, x, rest =>
    find text p x fun y =>
      rest { y with groups := (n, x.index, y.index) :: y.groups.filter fun g => g.1 != n }
  | .again n like, x, rest =>
    match x.groups.lookup n with
    | some (first, stop) =>
      if sameFrom like text x.index first (stop - first) then
        rest { x with index := x.index + (stop - first) }
      else none
    | none => none
  | .ifGroup n p q, x, rest =>
    if (x.groups.lookup n).isSome then find text p x rest else find text q x rest

/-- **Whether a pattern is found** anywhere in a text. -/
def isFoundIn (p : Pattern) (s : String) : Bool :=
  let text := s.toList.toArray
  (List.range (text.size + 1)).any fun i => (find text p ⟨i, []⟩ some).isSome

/-! ### Widths -/

/-- The count of characters of what a pattern finds, if it is always the same; `groups` gives that
of what groups hold. -/
def width? (groups : Nat → Option Nat) : Pattern → Option Nat
  | .char _ _ => some 1
  | .seq p q => do return (← p.width? groups) + (← q.width? groups)
  | .alt p q => do
    let m ← p.width? groups
    if m = (← q.width? groups) then some m else none
  | .repeated p least most _ => do
    let m ← p.width? groups
    if most = some least || m = 0 then some (m * least) else none
  | .group _ p => p.width? groups
  | .whole p => p.width? groups
  | .again n _ => groups n
  | .ifGroup _ p q => do
    let m ← p.width? groups
    if m = (← q.width? groups) then some m else none
  | _ => some 0

end Pattern

end ItemCatalog.Text
