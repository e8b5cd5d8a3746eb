import ItemCatalog.Text.Blank
import ItemCatalog.Text.Case
import ItemCatalog.Text.Word

/-! # Character sets: which characters a pattern accepts

A set is a range of code points, a class of characters, or made of other sets. With letters alike, a
set also holds the other forms of the letters in it: those with the same small form, or with small
forms that stand for each other. -/

namespace ItemCatalog.Text

/-- A set of characters. Its classes are those of ASCII only if `plain`. -/
inductive CharSet where
  | between (least most : Nat)
  | digit (plain : Bool)
  | word (plain : Bool)
  | blank (plain : Bool)
  | not (s : CharSet)
  | or (s t : CharSet)
  | nothing
deriving DecidableEq, Repr, Inhabited

/-- Which forms of a letter count as alike: none, those of the letters of ASCII, or those of all
letters. -/
inductive Likeness where
  | exact
  | plain
  | full
deriving DecidableEq, Repr, Inhabited

namespace CharSet

/-- Whether a character is a blank of ASCII. -/
def isPlainBlank (c : Char) : Bool :=
  c == ' ' || (9 ≤ c.toNat && c.toNat ≤ 13)

/-- Whether a character is a plain word character. -/
def isPlainWord (c : Char) : Bool :=
  c.isAlphanum || c == '_'

/-- Whether a set holds a character, or one of the forms that `forms` gives to it. -/
def hasForm (forms : Char → List Char) : CharSet → Char → Bool
  | .between a b, c => (forms c).any fun d => a ≤ d.toNat && d.toNat ≤ b
  | .digit plain, c => (forms c).any fun d => if plain then d.isDigit else isDecimal d
  | .word plain, c => (forms c).any fun d => if plain then isPlainWord d else isWordChar d
  | .blank plain, c => (forms c).any fun d => if plain then isPlainBlank d else isBlank d
  | .not s, c => !s.hasForm forms c
  | .or s t, c => s.hasForm forms c || t.hasForm forms c
  | .nothing, _ => false

/-- The small form of a letter, as a single character. -/
def smallForm (c : Char) : Char :=
  if c.toNat < 0x80 then c.toLower else (caseForm lowerSpecials lowerRuns c).headD c

/-- Small forms that stand for each other. -/
def twins : List (List Nat) :=
  [[0x69, 0x131], [0x73, 0x17f], [0xb5, 0x3bc], [0x345, 0x3b9, 0x1fbe], [0x390, 0x1fd3],
   [0x3b0, 0x1fe3], [0x3b2, 0x3d0], [0x3b5, 0x3f5], [0x3b8, 0x3d1], [0x3ba, 0x3f0],
   [0x3c0, 0x3d6], [0x3c1, 0x3f1], [0x3c2, 0x3c3], [0x3c6, 0x3d5], [0x432, 0x1c80],
   [0x434, 0x1c81], [0x43e, 0x1c82], [0x441, 0x1c83], [0x442, 0x1c84, 0x1c85], [0x44a, 0x1c86],
   [0x463, 0x1c87], [0x1e61, 0x1e9b], [0xa64b, 0x1c88], [0xfb05, 0xfb06]]

/-- A small form and those that stand for it. -/
def withTwins (c : Char) : List Char :=
  ((twins.find? fun t => t.contains c.toNat).getD [c.toNat]).map Char.ofNat

/-- The letters with a small form. -/
def lettersOf (c : Char) : List Char :=
  c :: lowerRuns.filterMap fun r =>
    let d := Char.ofNat (Int.toNat (c.toNat - r.delta))
    if smallForm d == c then some d else none

/-- The forms of a letter that count as alike. -/
def alike : Likeness → Char → List Char
  | .exact, c => [c]
  | .plain, c => [c, c.toLower, c.toUpper]
  | .full, c => (withTwins (smallForm c)).flatMap lettersOf

/-- **Whether a set holds a character**, up to letters that count as alike. -/
def has (s : CharSet) (like : Likeness) (c : Char) : Bool :=
  s.hasForm (alike like) c

end CharSet

end ItemCatalog.Text
