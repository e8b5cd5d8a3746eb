import ItemCatalog.Text.Case
import ItemCatalog.Value.Scalar
import ItemCatalog.Yaml.Tag

/-! # Typed scalars: the value of a text under a tag

Numbers are read without their underscores: an integer in base two, sixteen or eight by how it
starts, and a number of several parts with colons as a count of sixtieths. A date or time is made of
the numbers of its parts. -/

namespace ItemCatalog.Yaml

open Text Number Calendar

/-- The parts of a text between separators. -/
def splitAt (x : Char) (cs : List Char) : List (List Char) :=
  match cs with
  | [] => [[]]
  | c :: rest =>
    let parts := splitAt x rest
    if c = x then [] :: parts
    else match parts with
      | p :: ps => (c :: p) :: ps
      | [] => [[c]]

/-- The characters without underscores. -/
def dropMarks (cs : List Char) : List Char :=
  cs.filter (· != '_')

/-- The sign of a number and the rest of it. -/
def signOf (cs : List Char) : Except Fault (Bool × List Char) :=
  match cs with
  | [] => .error .emptyNumber
  | '-' :: rest => .ok (true, rest)
  | '+' :: rest => .ok (false, rest)
  | rest => .ok (false, rest)

/-- The integer that characters write in a base. -/
def integerIn (base : Nat) (cs : List Char) : Except Fault Int :=
  (readInt base (String.ofList cs)).mapError .number

/-- The value of an integer without sign. -/
def magnitudeOf (cs : List Char) : Except Fault Int :=
  match cs with
  | ['0'] => .ok 0
  | '0' :: 'b' :: ds => integerIn 2 ds
  | '0' :: 'x' :: ds => integerIn 16 ds
  | '0' :: _ => integerIn 8 cs
  | [] => .error .emptyNumber
  | _ =>
    if cs.contains ':' then do
      let parts ← (splitAt ':' cs).mapM (integerIn 10)
      return parts.foldl (fun n d => 60 * n + d) 0
    else integerIn 10 cs

/-- **The integer** of a text. -/
def integerOf (text : String) : Except Fault Int := do
  let (negative, body) ← signOf (dropMarks text.toList)
  let n ← magnitudeOf body
  return if negative then -n else n

/-- The sum of parts that count sixtieths, the last part first. -/
def sumSixtieths : List Binary64 → Nat → Binary64 → Except Fault Binary64
  | [], _, sum => .ok sum
  | d :: ds, base, sum => do
    let b ← (floatOfInt base).mapError .number
    sumSixtieths ds (base * 60) (sum.add (d.mul b))

/-- The floating-point number that characters write. -/
def floatIn (cs : List Char) : Except Fault Binary64 :=
  (readFloat (String.ofList cs)).mapError .number

/-- **The floating-point number** of a text. -/
def floatOf (text : String) : Except Fault Binary64 := do
  let (negative, body) ← signOf (lower (String.ofList (dropMarks text.toList))).toList
  if body == ".inf".toList then return .infinite negative
  else if body == ".nan".toList then return .nan
  else if body.contains ':' then do
    let parts ← (splitAt ':' body).mapM floatIn
    let x ← sumSixtieths parts.reverse 1 (Binary64.zero false)
    return if negative then x.neg else x
  else do
    let x ← floatIn body
    return if negative then x.neg else x

/-- **The truth value** of a text. -/
def truthOf (text : String) : Except Fault Bool :=
  let word := lower text
  match truthWords.lookup word with
  | some b => .ok b
  | none => .error (.truthWord word)

/-- The number of digits. -/
def numberOf (ds : List Char) : Nat :=
  Number.ofDigits 10 (ds.map fun d => d.toNat - 48)

/-- The offset in minutes that a stamp writes. -/
def offsetOf : Option (Option (Bool × List Char × List Char)) → Except Fault (Option Int)
  | none => .ok none
  | some none => .ok (some 0)
  | some (some (negative, hours, minutes)) => do
    let n : Int := numberOf hours * 60 + numberOf minutes
    let m ← (Instant.checkOffset (if negative then -n else n)).mapError .calendar
    return some m

/-- The six digits of the millionth parts of a second. -/
def microOf (part : List Char) : Nat :=
  numberOf (part.take 6 ++ List.replicate (6 - part.length) '0')

/-- **The date or instant** of a text. -/
def timestampOf (text : String) : Except Fault Scalar := do
  match readStamp (dropLineEnd text.toList) with
  | none => .error .notTimestamp
  | some s =>
    let (year, month, day) := (numberOf s.year, numberOf s.month, numberOf s.day)
    match s.time with
    | none => return .date (← (Date.make year month day).mapError .calendar)
    | some (hour, minute, second, part) =>
      let offset ← offsetOf s.zone
      let t := Instant.make year month day (numberOf hour) (numberOf minute) (numberOf second)
        (microOf part) offset
      return .instant (← t.mapError .calendar)

/-! ### Bytes -/

/-- The value of a digit of base sixty-four. -/
def sixBits? (c : Char) : Option Nat :=
  if 'A' ≤ c && c ≤ 'Z' then some (c.toNat - 65)
  else if 'a' ≤ c && c ≤ 'z' then some (c.toNat - 71)
  else if c.isDigit then some (c.toNat + 4)
  else if c == '+' then some 62
  else if c == '/' then some 63
  else none

/-- The bytes of digits of base sixty-four: `place` counts the digits of the current four, `left`
holds the bits that are left of them and `pads` counts the signs of padding. Other characters are
skipped, and a full row of padding ends the text. -/
def bytesFrom (place left pads : Nat) : List Char → Option (List UInt8)
  | [] => if place = 0 then some [] else none
  | '=' :: cs =>
    if 2 ≤ place then
      if 4 ≤ place + pads + 1 then some [] else bytesFrom place left (pads + 1) cs
    else bytesFrom place left pads cs
  | c :: cs =>
    match sixBits? c with
    | none => bytesFrom place left pads cs
    | some d =>
      match place with
      | 0 => bytesFrom 1 d 0 cs
      | 1 => (bytesFrom 2 (d % 16) 0 cs).map (UInt8.ofNat (left * 4 + d / 16) :: ·)
      | 2 => (bytesFrom 3 (d % 4) 0 cs).map (UInt8.ofNat (left * 16 + d / 4) :: ·)
      | _ => (bytesFrom 0 0 0 cs).map (UInt8.ofNat (left * 64 + d) :: ·)

/-- **The bytes** of a text. -/
def bytesOf (text : String) : Except Fault (List UInt8) :=
  if text.toList.all fun c => c.toNat < 128 then
    match bytesFrom 0 0 0 text.toList with
    | some bs => .ok bs
    | none => .error .malformed
  else .error .malformed

/-- **The value** of a text under a tag; nothing if the tag is no type of texts. -/
def typed (tag : Tag) (text : String) : Except Fault (Option Scalar) := do
  match tag with
  | .null => return some .null
  | .bool => return some (.bool (← truthOf text))
  | .int => return some (.int (← integerOf text))
  | .float => return some (.float (← floatOf text))
  | .binary => return some (.bytes (← bytesOf text))
  | .timestamp => return some (← timestampOf text)
  | .text => return some (.text text)
  | _ => return none

end ItemCatalog.Yaml
