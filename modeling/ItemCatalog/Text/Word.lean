import ItemCatalog.Text.WordTable

/-! # Word characters: letters, numbers and digits of all scripts

A word character is a letter or a number of any script, or the underscore. Decimal digits have a
value, counted from the zero of their script. -/

namespace ItemCatalog.Text

/-- Whether a character is a letter or a number. -/
def isAlphanumeric (c : Char) : Bool :=
  if c.toNat < 0x80 then c.isAlphanum else alphanumericRanges.has c

/-- Whether a character can be part of a word. -/
def isWordChar (c : Char) : Bool :=
  c == '_' || isAlphanumeric c

/-- The value of a decimal digit of any script. -/
def decimalValue? (c : Char) : Option Nat :=
  if c.toNat < 0x80 then (if c.isDigit then some (c.toNat - 48) else none)
  else (decimalRanges.find? fun r => r.1 ≤ c.toNat && c.toNat ≤ r.2).map
    fun r => (c.toNat - r.1) % 10

/-- Whether a character is a decimal digit of any script. -/
def isDecimal (c : Char) : Bool :=
  (decimalValue? c).isSome

end ItemCatalog.Text
