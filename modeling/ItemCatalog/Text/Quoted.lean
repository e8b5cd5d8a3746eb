import ItemCatalog.Text.PrintableTable

/-! # Quoted texts: how a text is shown inside a message

A text is shown between single quotes, or between double quotes if it holds a single quote and no
double one. The enclosing quote and the backslash are written after a backslash, line ends and tabs
by their letters, and every other character that is not printable by its code point. -/

namespace ItemCatalog.Text

/-- Whether a quoted text shows the character as itself. -/
def isPrintable (c : Char) : Bool :=
  if c.toNat < 0x7f then 0x20 ≤ c.toNat else printableRanges.has c

/-- The digit of a number below sixteen. -/
def hexDigit (n : Nat) : Char :=
  if n < 10 then Char.ofNat (48 + n) else Char.ofNat (87 + n)

/-- The last `width` hexadecimal digits of a number. -/
def hexDigits : Nat → Nat → List Char
  | 0, _ => []
  | width + 1, n => hexDigits width (n / 16) ++ [hexDigit (n % 16)]

/-- The way a character is written by its code point. -/
def codeEscape (n : Nat) : List Char :=
  if n < 0x100 then '\\' :: 'x' :: hexDigits 2 n
  else if n < 0x10000 then '\\' :: 'u' :: hexDigits 4 n
  else '\\' :: 'U' :: hexDigits 8 n

/-- One character inside the quotes `q`. -/
def quoteChar (q c : Char) : List Char :=
  if c = q then ['\\', q]
  else match c with
    | '\\' => ['\\', '\\']
    | '\n' => ['\\', 'n']
    | '\r' => ['\\', 'r']
    | '\t' => ['\\', 't']
    | c => if isPrintable c then [c] else codeEscape c.toNat

/-- The quote that encloses a text: the single one, unless only the double one is free. -/
def enclosingQuote (cs : List Char) : Char :=
  if cs.contains '\'' && !cs.contains '"' then '"' else '\''

/-- **The quoted form** of a text. -/
def quote (s : String) : String :=
  let q := enclosingQuote s.toList
  String.ofList (q :: s.toList.flatMap (quoteChar q) ++ [q])

/-- One byte inside the quotes `q`. -/
def quoteByte (q : Char) (b : UInt8) : List Char :=
  let c := Char.ofNat b.toNat
  if c = q then ['\\', q]
  else match c with
    | '\\' => ['\\', '\\']
    | '\n' => ['\\', 'n']
    | '\r' => ['\\', 'r']
    | '\t' => ['\\', 't']
    | c => if 0x20 ≤ b.toNat && b.toNat < 0x7f then [c] else '\\' :: 'x' :: hexDigits 2 b.toNat

/-- The quoted form of a sequence of bytes, marked by the letter `b`. -/
def quoteBytes (bs : List UInt8) : String :=
  let q := enclosingQuote (bs.map fun b => Char.ofNat b.toNat)
  String.ofList ('b' :: q :: bs.flatMap (quoteByte q) ++ [q])

end ItemCatalog.Text
