import ItemCatalog.Text.Ranges

/-! # Characters of legacy texts: which may stand where

A legacy text holds the characters of Unicode without most controls; a name starts with a letter, an
underscore or a colon and goes on with these, digits, marks and some signs. -/

namespace ItemCatalog.Xml

open Text

/-- Whether a character may stand in a text. -/
def isChar (c : Char) : Bool :=
  let n := c.toNat
  n == 0x9 || n == 0xa || n == 0xd || (0x20 ≤ n && n ≤ 0xfffd) || 0x10000 ≤ n

/-- Whether a character separates. -/
def isSpace (c : Char) : Bool :=
  c == ' ' || c == '\t' || c == '\n' || c == '\r'

/-- The characters that can start a name. -/
def nameStartRanges : Ranges :=
  [(0x3a, 0x3a), (0x41, 0x5a), (0x5f, 0x5f), (0x61, 0x7a), (0xc0, 0xd6), (0xd8, 0xf6),
   (0xf8, 0x2ff), (0x370, 0x37d), (0x37f, 0x1fff), (0x200c, 0x200d), (0x2070, 0x218f),
   (0x2c00, 0x2fef), (0x3001, 0xd7ff), (0xf900, 0xfdcf), (0xfdf0, 0xfffd), (0x10000, 0xeffff)]

/-- The other characters that can be part of a name. -/
def nameRestRanges : Ranges :=
  [(0x2d, 0x2e), (0x30, 0x39), (0xb7, 0xb7), (0x300, 0x36f), (0x203f, 0x2040)]

/-- Whether a character can start a name. -/
def isNameStart (c : Char) : Bool :=
  nameStartRanges.has c

/-- Whether a character can be part of a name. -/
def isNameChar (c : Char) : Bool :=
  isNameStart c || nameRestRanges.has c

end ItemCatalog.Xml
