import ItemCatalog.Xml.Chars

/-! # Lexemes: the smallest parts of a legacy text

Every reader here takes the characters from some place on and gives what it read with the characters
after it, or nothing if the text breaks the rules at this place. -/

namespace ItemCatalog.Xml

/-- What a reader gives. -/
abbrev Reader (α : Type) := List Char → Option (α × List Char)

/-- The characters after a fixed text. -/
def after (lead : List Char) (cs : List Char) : Option (List Char) :=
  match lead, cs with
  | [], cs => some cs
  | l :: lead, c :: cs => if l = c then after lead cs else none
  | _ :: _, [] => none

/-- The characters after a word. -/
def afterWord (word : String) (cs : List Char) : Option (List Char) :=
  after word.toList cs

/-- The characters after any separators. -/
def skipSpace (cs : List Char) : List Char :=
  cs.dropWhile isSpace

/-- The characters after at least one separator. -/
def someSpace (cs : List Char) : Option (List Char) :=
  if cs.head?.any isSpace then some (skipSpace cs) else none

/-- The characters up to the first place of a mark, and those after the mark. -/
def upTo (mark : List Char) : Reader (List Char)
  | [] => (after mark []).map fun rest => ([], rest)
  | c :: cs =>
    match after mark (c :: cs) with
    | some rest => some ([], rest)
    | none => (upTo mark cs).map fun r => (c :: r.1, r.2)

/-- A name. -/
def name : Reader (List Char)
  | [] => none
  | c :: cs =>
    if isNameStart c then some (c :: cs.takeWhile isNameChar, cs.dropWhile isNameChar) else none

/-- A text between quotes, as it stands. -/
def quotedText : Reader (List Char)
  | '"' :: cs => upTo ['"'] cs
  | '\'' :: cs => upTo ['\''] cs
  | _ => none

/-- What is left of a comment after its opening mark; nothing of it counts. -/
def comment (cs : List Char) : Option (List Char) := do
  let (body, rest) ← upTo ['-', '-'] cs
  if body.all isChar then after ['>'] rest else none

/-- What is left of an instruction after its opening mark. -/
def instruction (cs : List Char) : Option (List Char) := do
  let (target, rest) ← name cs
  if target.map Char.toLower == ['x', 'm', 'l'] || target.contains ':' then none
  else match after ['?', '>'] rest with
    | some rest => some rest
    | none => do
      let (body, rest) ← upTo ['?', '>'] (← someSpace rest)
      if body.all isChar then some rest else none

/-- The digits of a character reference in a base, and the characters after its semicolon. -/
def referenceDigits (base : Nat) (value : Char → Option Nat) (cs : List Char) :
    Option (Char × List Char) := do
  let ds := cs.takeWhile (· != ';')
  let n ← ds.foldl (fun n d => do return base * (← n) + (← value d)) (some 0)
  if ds.isEmpty || 0x110000 ≤ n || (0xd800 ≤ n && n < 0xe000) || !isChar (Char.ofNat n) then none
  else return (Char.ofNat n, ← after [';'] (cs.drop ds.length))

/-- The value of a hexadecimal digit. -/
def hexValue (c : Char) : Option Nat :=
  if c.isDigit then some (c.toNat - 48)
  else if 'a' ≤ c && c ≤ 'f' then some (c.toNat - 87)
  else if 'A' ≤ c && c ≤ 'F' then some (c.toNat - 55)
  else none

/-- The value of a decimal digit. -/
def decimalValue (c : Char) : Option Nat :=
  if c.isDigit then some (c.toNat - 48) else none

/-- What a reference names: a character, or an entity. -/
inductive Reference where
  | char (c : Char)
  | entity (name : String)

/-- The entities that every text knows. -/
def knownEntities : List (String × Char) :=
  [("lt", '<'), ("gt", '>'), ("amp", '&'), ("quot", '"'), ("apos", '\'')]

/-- A reference, after its ampersand. -/
def reference : Reader Reference
  | '#' :: 'x' :: cs => (referenceDigits 16 hexValue cs).map fun r => (.char r.1, r.2)
  | '#' :: cs => (referenceDigits 10 decimalValue cs).map fun r => (.char r.1, r.2)
  | cs => do
    let (n, rest) ← name cs
    let rest ← after [';'] rest
    let n := String.ofList n
    match knownEntities.lookup n with
    | some c => return (.char c, rest)
    | none => return (.entity n, rest)

end ItemCatalog.Xml
