import ItemCatalog.Text.Pattern.Piece

/-! # Escapes and sets: what single pieces stand for

A backslash gives the character after it another meaning: a code point, a class, a place, or a group
that is found once more. A set in square brackets holds code points, ranges of them and classes. -/

namespace ItemCatalog.Text.Pattern

/-! ### Escapes -/

/-- What a piece stands for: a code point, or a set of characters. -/
inductive Meaning where
  | code (n : Nat)
  | set (s : CharSet)
deriving DecidableEq, Repr

/-- The set of a meaning. -/
def Meaning.toSet : Meaning → CharSet
  | .code n => .between n n
  | .set s => s

/-- Whether a character is a digit below eight. -/
def isOctal (c : Char) : Bool :=
  '0' ≤ c && c ≤ '7'

/-- Whether a character is a hexadecimal digit of ASCII. -/
def isHex (c : Char) : Bool :=
  c.isDigit || ('a' ≤ c && c ≤ 'f') || ('A' ≤ c && c ≤ 'F')

/-- The number of digits. -/
def valueOf (base : Nat) (ds : List Char) : Nat :=
  ds.foldl (fun n d =>
    base * n + (if d.isDigit then d.toNat - 48 else d.toLower.toNat - 87)) 0

/-- The code points of letters after a backslash. -/
def controlCodes : List (Char × Nat) :=
  [('a', 7), ('b', 8), ('f', 12), ('n', 10), ('r', 13), ('t', 9), ('v', 11), ('\\', 92)]

/-- The class of a letter after a backslash. -/
def classOf? (plain : Bool) : Char → Option CharSet
  | 'd' => some (.digit plain)
  | 'D' => some (.not (.digit plain))
  | 's' => some (.blank plain)
  | 'S' => some (.not (.blank plain))
  | 'w' => some (.word plain)
  | 'W' => some (.not (.word plain))
  | _ => none

/-- Reads the hexadecimal digits of a code point, which have to be `count`. -/
def readHex (c : Char) (count : Nat) : Reading Meaning := do
  let ds ← takeUpTo isHex count
  let text := String.ofList ('\\' :: c :: ds)
  if ds.length ≠ count then complain (.shortEscape text) text.length
  let n := valueOf 16 ds
  if n ≥ 0x110000 then complain (.badEscape text) text.length
  return .code n

/-- What a character after a backslash means in the same way inside and outside of sets. -/
def readCode (c : Char) : Reading Meaning := do
  match c with
  | 'x' => readHex c 2
  | 'u' => readHex c 4
  | 'U' => readHex c 8
  | 'N' =>
    if !(← skip '\x7b') then complain .openBrace
    let name ← readName '\x7d' "character name"
    complain (.unknownCharacter (String.ofList name)) (name.length + 4)
  | _ =>
    if c.isAlpha then complain (.badEscape (String.ofList ['\\', c])) 2
    return .code c.toNat

/-- Reads the octal digits of a code point, of which the first are known. -/
def readOctal (known : List Char) (count : Nat) : Reading Meaning := do
  let ds := known ++ (← takeUpTo isOctal count)
  let n := valueOf 8 ds
  if n > 0xff then complain (.largeOctal (String.ofList ('\\' :: ds))) (ds.length + 1)
  return .code n

/-- What a piece means inside a set. -/
def readMember (plain : Bool) : List Char → Reading Meaning
  | ['\\', c] => do
    match controlCodes.lookup c, classOf? plain c with
    | some n, _ => return .code n
    | none, some s => return .set s
    | none, none =>
      if isOctal c then readOctal [c] 2
      else if c.isDigit then complain (.badEscape (String.ofList ['\\', c])) 2
      else readCode c
  | c :: _ => return .code c.toNat
  | [] => return .set .nothing

/-! ### Sets -/

/-- Stops at a range between two pieces. -/
def badRange {α : Type} (first last : List Char) : Reading α :=
  complain (.badRange (String.ofList first) (String.ofList last)) (first.length + 1 + last.length)

/-- Reads the rest of a set that was opened at a place. -/
def readMembers (plain : Bool) (start : Nat) : Nat → Option CharSet → Reading CharSet
  | 0, s => return s.getD .nothing
  | n + 1, s => do
    let join := fun t : CharSet => (s.map fun s => CharSet.or s t).getD t
    let unclosed := fun _ : Unit => do complain .unclosedSet ((← here) - start)
    let this ← take
    if this.isEmpty then unclosed ()
    match this == [']'], s with
    | true, some s => return s
    | _, _ =>
      let first ← readMember plain this
      if ← skip '-' then
        let that ← take
        if that.isEmpty then unclosed ()
        if that == [']'] then return .or (join first.toSet) (.between 45 45)
        let second ← readMember plain that
        match first, second with
        | .code a, .code b =>
          if b < a then badRange this that
          readMembers plain start n (some (join (.between a b)))
        | _, _ => badRange this that
      else readMembers plain start n (some (join first.toSet))

/-- Reads a set after its opening bracket. -/
def readSet (plain : Bool) : Reading CharSet := do
  let start := (← here) - 1
  let absent ← skip '^'
  let s ← readMembers plain start ((← get).rest.length + 1) none
  return if absent then .not s else s

/-! ### Groups that are referred to -/

/-- Whether a group was closed. -/
def isClosed (n : Nat) : Reading Bool := do
  return ((← get).closed.lookup n).isSome

/-- Refuses a group of the same look at what comes before. -/
def checkLook (n : Nat) : Reading Unit := do
  match (← get).lookStart with
  | none => return
  | some count =>
    if !(← isClosed n) then complain .openGroup
    if n > count then complain .groupOfLook

/-- The group that a text refers to; `back` is the count of characters to point back. -/
def referTo (m : Modes) (n back : Nat) : Reading Pattern := do
  if !(← isClosed n) then complain .openGroup back
  checkLook n
  return .again n m.likeness

/-- Whether a text can name a group. -/
def isName (cs : List Char) : Bool :=
  match cs with
  | [] => false
  | c :: _ => cs.all isWordChar && !isDecimal c

/-- The group of a name. -/
def groupOf (name : List Char) (back : Nat) : Reading Nat := do
  let text := String.ofList name
  if !isName name then complain (.badName text) back
  match (← get).names.lookup text with
  | some n => return n
  | none => complain (.unknownName text) back

/-! ### Escapes outside of sets -/

/-- What is read as one item, by what may follow it: a place cannot be repeated, and a repetition
not once more. -/
inductive ItemKind where
  | place
  | repeated
  | other
deriving DecidableEq, Repr

/-- An item of a branch. -/
abbrev Piecewise := ItemKind × Pattern

/-- The item of a meaning. -/
def Meaning.toItem (m : Modes) (x : Meaning) : Piecewise :=
  (.other, .char x.toSet m.likeness)

/-- The group of a number in decimal digits, of which the first is known; or an octal code point. -/
def readNumber (m : Modes) (c : Char) : Reading Piecewise := do
  let second ← takeUpTo Char.isDigit 1
  match second with
  | [d] =>
    if isOctal c && isOctal d && (← peek).head?.any isOctal && (← peek).length = 1 then
      return Meaning.toItem m (← readOctal [c, d] 1)
  | _ => pure ()
  let ds := c :: second
  let n := valueOf 10 ds
  if n > (← get).opened then complain (.noGroup n) ds.length
  return (.other, ← referTo m n (ds.length + 1))

/-- Reads a piece with a backslash. -/
def readEscape (m : Modes) (c : Char) : Reading Piecewise := do
  match c, classOf? m.plain c with
  | _, some s => return (.other, .char s m.likeness)
  | 'A', _ => return (.place, .start false)
  | 'Z', _ => return (.place, .last)
  | 'b', _ => return (.place, .border m.plain false)
  | 'B', _ => return (.place, .border m.plain true)
  | '0', _ => return Meaning.toItem m (← readOctal ['0'] 2)
  | _, none =>
    match controlCodes.lookup c with
    | some n => return Meaning.toItem m (.code n)
    | none => if c.isDigit then readNumber m c else return Meaning.toItem m (← readCode c)

end ItemCatalog.Text.Pattern
