import ItemCatalog.Text.Charset

/-! # Percent signs: bytes written in digits

A byte is written as a percent sign and two hexadecimal digits. Reading takes every such group back
to its byte and leaves all other characters as they are; bytes that are no text become the sign for
an unknown character. -/

namespace ItemCatalog.Text.Percent

/-! ### Writing -/

/-- A byte as it is written: as its character if that is plain, else in digits. -/
def encodeByte (plain : Char → Bool) (b : UInt8) : List Char :=
  let c := Char.ofNat b.toNat
  if b.toNat < 128 && plain c then [c] else '%' :: (hexDigits 2 b.toNat).map Char.toUpper

/-- **A text** with the bytes of all characters that are not plain written in digits. -/
def encode (plain : Char → Bool) (s : String) : String :=
  String.ofList (s.toUTF8.toList.flatMap (encodeByte plain))

/-! ### Reading -/

/-- The value of a hexadecimal digit. -/
def hexValue? (b : UInt8) : Option Nat :=
  let n := b.toNat
  if 48 ≤ n && n ≤ 57 then some (n - 48)
  else if 65 ≤ n && n ≤ 70 then some (n - 55)
  else if 97 ≤ n && n ≤ 102 then some (n - 87)
  else none

/-- The bytes with every group taken back to its byte. -/
def decodeBytes : List UInt8 → List UInt8
  | 37 :: a :: b :: rest =>
    match hexValue? a, hexValue? b with
    | some m, some n => UInt8.ofNat (16 * m + n) :: decodeBytes rest
    | _, _ => 37 :: decodeBytes (a :: b :: rest)
  | b :: rest => b :: decodeBytes rest
  | [] => []

/-- The characters of bytes, with the sign for an unknown character where they are none; at most
`count` times. -/
def lossyChars : Nat → List UInt8 → List Char
  | 0, _ => []
  | count + 1, bytes =>
    match Charset.decodeUtf8 0 bytes with
    | .ok cs => cs
    | .error e =>
      ((Charset.decodeUtf8 0 (bytes.take e.start)).toOption.getD []) ++
        '\ufffd' :: lossyChars count (bytes.drop (e.start + e.count))

/-- **The text** with its groups read. -/
def decode (s : String) : String :=
  let bytes := decodeBytes s.toUTF8.toList
  String.ofList (lossyChars (bytes.length + 1) bytes)

end ItemCatalog.Text.Percent
