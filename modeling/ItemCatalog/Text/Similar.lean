/-! # Similar texts: what may have been meant

Two texts have in common their longest shared run of characters, the first of several, and what the
parts before it and the parts after it have in common. Twice the count of these characters over the
count of all is the likeness of the texts. -/

namespace ItemCatalog.Text

/-- The count of characters that two lists start with in common. -/
def commonStart : List Char → List Char → Nat
  | a :: as, b :: bs => if a = b then commonStart as bs + 1 else 0
  | _, _ => 0

/-- A run of characters that two texts share: where it starts in each, and how many they are. -/
structure SharedRun where
  first : Nat
  second : Nat
  size : Nat
deriving DecidableEq, Repr, Inhabited

/-- One step of the scan for the longest run. -/
def longerRun (best run : SharedRun) : SharedRun :=
  if best.size < run.size then run else best

/-- The longest run that two texts share. -/
def longestRun (as bs : List Char) : SharedRun :=
  ((List.range as.length).flatMap fun i => (List.range bs.length).map fun j =>
    ⟨i, j, commonStart (as.drop i) (bs.drop j)⟩).foldl longerRun ⟨0, 0, 0⟩

/-- The count of characters that two texts have in common, found in at most so many rounds. -/
def commonCount : Nat → List Char → List Char → Nat
  | 0, _, _ => 0
  | n + 1, as, bs =>
    let r := longestRun as bs
    if r.size = 0 then 0
    else commonCount n (as.take r.first) (bs.take r.second) + r.size +
      commonCount n (as.drop (r.first + r.size)) (bs.drop (r.second + r.size))

/-- The likeness of two texts, as a fraction. -/
def likeness (s t : String) : Nat × Nat :=
  let as := s.toList
  let bs := t.toList
  (2 * commonCount (as.length + 1) as bs, as.length + bs.length)

/-- Whether a fraction is at least three fifths. -/
def isClose (r : Nat × Nat) : Bool :=
  3 * r.2 ≤ 5 * r.1

/-- Whether a likeness with its text goes before another: it is greater, or the text is. -/
def goesBefore (a b : (Nat × Nat) × String) : Bool :=
  let x := a.1.1 * b.1.2
  let y := b.1.1 * a.1.2
  y < x || (x = y && b.2 ≤ a.2)

/-- **The three texts** of a list that are closest to one, among those that are close enough. -/
def closeTo (word : String) (texts : List String) : List String :=
  let found := (texts.map fun t => (likeness t word, t)).filter fun e => isClose e.1
  ((found.mergeSort goesBefore).take 3).map Prod.snd

end ItemCatalog.Text
