import ItemCatalog.Text.Case
import ItemCatalog.Text.CharsetTable
import ItemCatalog.Text.Quoted

/-! # Character sets: from bytes to texts

A text is stored as bytes in some character set. Decoding either gives all characters or says which
bytes, from where on, stand for none, and why. -/

namespace ItemCatalog.Text

/-- A way to store characters as bytes: the variable-length form of Unicode, with a mark at its
start that is no part of the text if `marked`; the characters of ASCII; the first 256 of Unicode;
two or four bytes for a character, or always four, the low byte first unless `big`, or in the order
that a mark at the start tells; or one byte, of which the upper half is a table. -/
inductive Charset where
  | utf8 (marked : Bool)
  | ascii
  | latin1
  | utf16 (big : Bool)
  | markedUtf16
  | utf32 (big : Bool)
  | markedUtf32
  | table (high : String)
deriving DecidableEq, Repr

/-- Bytes that stand for no character: the name of the character set, the first of them, where it
stands, how many they are, and why they stand for none. -/
structure BadBytes where
  charset : String
  byte : UInt8
  start : Nat
  count : Nat
  reason : String
deriving DecidableEq, Repr

/-- Why bytes are no text: some of them stand for no character, or the mark that tells their order
is missing. -/
inductive DecodeFault where
  | bytes (bad : BadBytes)
  | unmarked (charset : String)
deriving DecidableEq, Repr

/-- The wording of a fault. -/
def DecodeFault.message : DecodeFault → String
  | .bytes e =>
    let which :=
      if e.count = 1 then
        s!"byte 0x{String.ofList (hexDigits 2 e.byte.toNat)} in position {e.start}"
      else s!"bytes in position {e.start}-{e.start + e.count - 1}"
    s!"'{e.charset}' codec can't decode {which}: {e.reason}"
  | .unmarked charset => charset ++ " stream does not start with BOM"

namespace Charset

/-! ### The variable-length form -/

/-- The fault of the variable-length form. -/
def utf8Fault (byte : UInt8) (start count : Nat) (reason : String) : BadBytes :=
  ⟨"utf-8", byte, start, count, reason⟩

/-- Whether a byte goes on with a character, within bounds for the second byte. -/
def goesOn (b : UInt8) (least : Nat) (most : Nat) : Bool :=
  least ≤ b.toNat && b.toNat ≤ most

/-- The bounds of the second byte after a first one. -/
def secondBounds (b : UInt8) : Nat × Nat :=
  if b == 0xe0 then (0xa0, 0xbf)
  else if b == 0xed then (0x80, 0x9f)
  else if b == 0xf0 then (0x90, 0xbf)
  else if b == 0xf4 then (0x80, 0x8f)
  else (0x80, 0xbf)

/-- The reason for bytes that end too early. -/
def endReason : String := "unexpected end of data"

/-- The reason for a byte that does not go on with a character. -/
def goesOnReason : String := "invalid continuation byte"

/-- The characters of bytes in the variable-length form, the first of them at the place `pos`. -/
def decodeUtf8 (pos : Nat) : List UInt8 → Except BadBytes (List Char)
  | [] => .ok []
  | a :: rest =>
    let n := a.toNat
    if n < 0x80 then (decodeUtf8 (pos + 1) rest).map (Char.ofNat n :: ·)
    else if n < 0xc2 || 0xf5 ≤ n then .error (utf8Fault a pos 1 "invalid start byte")
    else
      let bounds := secondBounds a
      match rest with
      | [] => .error (utf8Fault a pos 1 endReason)
      | b :: rest =>
        if !goesOn b bounds.1 bounds.2 then .error (utf8Fault a pos 1 goesOnReason)
        else if n < 0xe0 then
          (decodeUtf8 (pos + 2) rest).map (Char.ofNat ((n - 0xc0) * 64 + (b.toNat - 0x80)) :: ·)
        else match rest with
          | [] => .error (utf8Fault a pos 2 endReason)
          | c :: rest =>
            if !goesOn c 0x80 0xbf then .error (utf8Fault a pos 2 goesOnReason)
            else if n < 0xf0 then
              (decodeUtf8 (pos + 3) rest).map
                (Char.ofNat (((n - 0xe0) * 64 + (b.toNat - 0x80)) * 64 + (c.toNat - 0x80)) :: ·)
            else match rest with
              | [] => .error (utf8Fault a pos 3 endReason)
              | d :: rest =>
                if !goesOn d 0x80 0xbf then .error (utf8Fault a pos 3 goesOnReason)
                else
                  (decodeUtf8 (pos + 4) rest).map
                    (Char.ofNat ((((n - 0xf0) * 64 + (b.toNat - 0x80)) * 64 +
                      (c.toNat - 0x80)) * 64 + (d.toNat - 0x80)) :: ·)

/-- The characters of bytes that may start with a mark; places count from after it, and a part of
the mark alone is an empty text. -/
def decodeMarkedUtf8 (bytes : List UInt8) : Except BadBytes (List Char) :=
  match bytes with
  | [0xef] | [0xef, 0xbb] => .ok []
  | 0xef :: 0xbb :: 0xbf :: rest => decodeUtf8 0 rest
  | bytes => decodeUtf8 0 bytes

/-! ### Other character sets -/

/-- The characters of bytes that each stand for one by a rule. -/
def decodeEach (charset reason : String) (rule : UInt8 → Option Char) (pos : Nat) :
    List UInt8 → Except BadBytes (List Char)
  | [] => .ok []
  | b :: rest =>
    match rule b with
    | some c => (decodeEach charset reason rule (pos + 1) rest).map (c :: ·)
    | none => .error ⟨charset, b, pos, 1, reason⟩

/-- The character of a byte by a table of the upper half. -/
def tableChar (high : List Char) (b : UInt8) : Option Char :=
  if b.toNat < 0x80 then some (Char.ofNat b.toNat)
  else (high[b.toNat - 0x80]?).filter (· != '\ufffd')

/-- The reason for bytes that are too few for a unit. -/
def truncatedReason : String := "truncated data"

/-- The characters of bytes in pairs. -/
def decodeUtf16 (big : Bool) (pos : Nat) : List UInt8 → Except BadBytes (List Char)
  | [] => .ok []
  | [a] => .error ⟨name, a, pos, 1, truncatedReason⟩
  | a :: b :: rest =>
    let unit := fun (x y : UInt8) =>
      if big then x.toNat * 256 + y.toNat else y.toNat * 256 + x.toNat
    let n := unit a b
    if n < 0xd800 || 0xe000 ≤ n then (decodeUtf16 big (pos + 2) rest).map (Char.ofNat n :: ·)
    else if 0xdc00 ≤ n then .error ⟨name, a, pos, 2, "illegal encoding"⟩
    else match rest with
      | c :: d :: rest =>
        let m := unit c d
        if 0xdc00 ≤ m && m < 0xe000 then
          (decodeUtf16 big (pos + 4) rest).map
            (Char.ofNat (0x10000 + (n - 0xd800) * 0x400 + (m - 0xdc00)) :: ·)
        else .error ⟨name, a, pos, 2, "illegal UTF-16 surrogate"⟩
      | rest => .error ⟨name, a, pos, 2 + rest.length, endReason⟩
where
  /-- The name of the character set. -/
  name : String := if big then "utf-16-be" else "utf-16-le"

/-- The characters of bytes in fours. -/
def decodeUtf32 (big : Bool) (pos : Nat) : List UInt8 → Except BadBytes (List Char)
  | [] => .ok []
  | a :: b :: c :: d :: rest =>
    let digits := if big then [a, b, c, d] else [d, c, b, a]
    let n := digits.foldl (fun n x => n * 256 + x.toNat) 0
    if 0xd800 ≤ n && n < 0xe000 then
      .error ⟨name, a, pos, 4, "code point in surrogate code point range(0xd800, 0xe000)"⟩
    else if 0x110000 ≤ n then
      .error ⟨name, a, pos, 4, "code point not in range(0x110000)"⟩
    else (decodeUtf32 big (pos + 4) rest).map (Char.ofNat n :: ·)
  | a :: rest => .error ⟨name, a, pos, 1 + rest.length, truncatedReason⟩
where
  /-- The name of the character set. -/
  name : String := if big then "utf-32-be" else "utf-32-le"

/-- The characters of bytes without the mark that they need: there are none, but bytes that stand
for no character are found first. -/
def refuseUnmarked (charset : String) (read : Except BadBytes (List Char)) :
    Except DecodeFault (List Char) :=
  match read with
  | .ok [] => .ok []
  | .ok _ => .error (.unmarked charset)
  | .error e => .error (.bytes e)

/-- **The characters** of bytes in a character set. -/
def decode (cs : Charset) (bytes : List UInt8) : Except DecodeFault (List Char) :=
  match cs with
  | .utf8 marked => (if marked then decodeMarkedUtf8 bytes else decodeUtf8 0 bytes).mapError .bytes
  | .ascii =>
    (decodeEach "ascii" "ordinal not in range(128)"
      (fun b => if b.toNat < 0x80 then some (Char.ofNat b.toNat) else none) 0 bytes).mapError .bytes
  | .latin1 => .ok (bytes.map fun b => Char.ofNat b.toNat)
  | .utf16 big => (decodeUtf16 big 0 bytes).mapError .bytes
  | .markedUtf16 =>
    match bytes with
    | 0xff :: 0xfe :: rest => (decodeUtf16 false 2 rest).mapError .bytes
    | 0xfe :: 0xff :: rest => (decodeUtf16 true 2 rest).mapError .bytes
    | bytes => refuseUnmarked "UTF-16" (decodeUtf16 false 0 bytes)
  | .utf32 big => (decodeUtf32 big 0 bytes).mapError .bytes
  | .markedUtf32 =>
    match bytes with
    | 0xff :: 0xfe :: 0 :: 0 :: rest => (decodeUtf32 false 4 rest).mapError .bytes
    | 0 :: 0 :: 0xfe :: 0xff :: rest => (decodeUtf32 true 4 rest).mapError .bytes
    | bytes => refuseUnmarked "UTF-32" (decodeUtf32 false 0 bytes)
  | .table high =>
    (decodeEach "charmap" "character maps to <undefined>" (tableChar high.toList) 0
      bytes).mapError .bytes

/-! ### Labels -/

/-- The words of a label in lower case, with one hyphen between two of them. -/
def plainLabel (label : String) : String :=
  let parts := (lower label).toList.splitBy fun a b => isPart a == isPart b
  let words := parts.filter fun p => p.all isPart
  "-".intercalate (words.map String.ofList)
where
  /-- Whether a character belongs to a word of a label. -/
  isPart (c : Char) : Bool := c.isAlphanum || c == '.'

/-- The labels of the character sets without a table. -/
def labelled : List (List String × Charset) :=
  [(["utf-8", "utf8", "u8", "utf", "cp65001"], .utf8 false),
   (["utf-8-sig"], .utf8 true),
   (["ascii", "us-ascii", "us", "646", "ansi-x3.4-1968", "iso646-us", "cp367", "ibm367"], .ascii),
   (["iso-8859-1", "iso8859-1", "latin-1", "latin1", "latin", "l1", "cp819", "ibm819", "8859",
     "iso8859"], .latin1),
   (["utf-16", "utf16", "u16"], .markedUtf16),
   (["utf-16-le", "utf-16le"], .utf16 false),
   (["utf-16-be", "utf-16be"], .utf16 true),
   (["utf-32", "utf32", "u32"], .markedUtf32),
   (["utf-32-le", "utf-32le"], .utf32 false),
   (["utf-32-be", "utf-32be"], .utf32 true)]

/-- The character set of a label, in any case and with any separators between its words. -/
def ofLabel? (label : String) : Option Charset :=
  let key := plainLabel label
  match labelled.find? fun e => e.1.contains key with
  | some e => some e.2
  | none => (CharsetTable.labelled.find? fun e => e.1.contains key).map fun e => .table e.2

/-- Whether a label names a way to store bytes as other bytes, and not a character set. -/
def isByteLabel (label : String) : Bool :=
  ["rot13", "rot-13", "hex", "hex-codec", "base64", "base-64", "base64-codec", "bz2", "bz2-codec",
   "zip", "zlib", "zlib-codec", "quopri", "quopri-codec", "quoted-printable", "quotedprintable",
   "uu", "uu-codec"].contains (plainLabel label)

end Charset

end ItemCatalog.Text
