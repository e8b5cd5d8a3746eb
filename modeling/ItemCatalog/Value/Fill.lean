import ItemCatalog.Number.Decimal
import ItemCatalog.Text.Percent
import ItemCatalog.Value.Inspect

/-! # Filled texts: values in the place of marks

A mark is a percent sign, an optional key in round brackets, flags, a width, a precision and a
letter that says how a value is written. The values come from a list, each for one mark and none
left over, or from a mapping, by the keys of the marks. -/

namespace ItemCatalog.Value

open Number

/-- Why a text could not be filled. -/
inductive FillFault where
  | incomplete
  | incompleteKey
  | notMapping
  | noKey (key : String)
  | tooFew
  | tooMany
  | starNotInteger
  | tooWide
  | tooLong
  | unknownLetter (letter : Char) (place : Nat)
  | notReal (letter : Char) (kind : String)
  | notInteger (letter : Char) (kind : String)
  | notNumber (kind : String)
  | notCharacter
  | noCodePoint
  | infinite
  | undefined
deriving DecidableEq, Repr

namespace FillFault

/-- The character that stands for one in a message: itself if it is plain. -/
def shown (c : Char) : Char :=
  if 31 ≤ c.toNat && c.toNat ≤ 126 then c else '?'

/-- **The wording** of a fault. -/
def message : FillFault → String
  | .incomplete => "incomplete format"
  | .incompleteKey => "incomplete format key"
  | .notMapping => "format requires a mapping"
  | .noKey k => Text.quote k
  | .tooFew => "not enough arguments for format string"
  | .tooMany => "not all arguments converted during string formatting"
  | .starNotInteger => "* wants int"
  | .tooWide => "width too big"
  | .tooLong => "precision too big"
  | .unknownLetter c n =>
    let code := String.ofList (Nat.toDigits 16 c.toNat)
    "unsupported format character '" ++ (shown c).toString ++ "' (0x" ++ code ++ s!") at index {n}"
  | .notReal c kind => "%" ++ c.toString ++ " format: a real number is required, not " ++ kind
  | .notInteger c kind => "%" ++ c.toString ++ " format: an integer is required, not " ++ kind
  | .notNumber kind => "must be real number, not " ++ kind
  | .notCharacter => "%c requires int or char"
  | .noCodePoint => "%c arg not in range(0x110000)"
  | .infinite => "cannot convert float infinity to integer"
  | .undefined => "cannot convert float NaN to integer"

end FillFault

/-! ### Marks -/

/-- The greatest width. -/
def widthLimit : Nat := 9223372036854775807

/-- The greatest precision. -/
def precisionLimit : Nat := 2147483647

/-- A mark: whether it stands to the left of its width, has a sign also if it is not negative, or a
blank in the place of one, is in the longer form, and has zeros up to its width; this width; and the
count of digits or characters. -/
structure Mark where
  left : Bool := false
  sign : Bool := false
  blank : Bool := false
  long : Bool := false
  zeros : Bool := false
  width : Nat := 0
  precision : Option Nat := none
deriving DecidableEq, Repr, Inhabited

/-- Reads flags. -/
def readFlags (m : Mark) : List Char → Mark × List Char
  | '-' :: cs => readFlags { m with left := true } cs
  | '+' :: cs => readFlags { m with sign := true } cs
  | ' ' :: cs => readFlags { m with blank := true } cs
  | '#' :: cs => readFlags { m with long := true } cs
  | '0' :: cs => readFlags { m with zeros := true } cs
  | cs => (m, cs)

/-- Reads digits. -/
def readDigits (cs : List Char) : Nat × List Char :=
  ((cs.takeWhile Char.isDigit).foldl (fun n d => 10 * n + (d.toNat - 48)) 0,
    cs.dropWhile Char.isDigit)

/-- Reads a key up to the bracket that closes it. -/
def readKey : Nat → List Char → List Char → Option (String × List Char)
  | _, _, [] => none
  | depth, key, c :: cs =>
    if c = ')' then
      match depth with
      | 0 => some (String.ofList key.reverse, cs)
      | depth + 1 => readKey depth (c :: key) cs
    else readKey (if c = '(' then depth + 1 else depth) (c :: key) cs

/-! ### Written values -/

/-- A text without a sign, after its sign and mark, up to the width of a mark. -/
def pad (m : Mark) (numeric : Bool) (start body : List Char) : List Char :=
  let missing := m.width - (start.length + body.length)
  if m.left then start ++ body ++ List.replicate missing ' '
  else if numeric && m.zeros then start ++ List.replicate missing '0' ++ body
  else List.replicate missing ' ' ++ start ++ body

/-- The sign of a number. -/
def signText (m : Mark) (negative : Bool) : List Char :=
  if negative then ['-'] else if m.sign then ['+'] else if m.blank then [' '] else []

/-- The base, the mark of the base and the case of an integer letter. -/
def baseOf : Char → Nat × List Char × Bool
  | 'x' => (16, ['0', 'x'], false)
  | 'X' => (16, ['0', 'X'], true)
  | 'o' => (8, ['0', 'o'], false)
  | _ => (10, [], false)

/-- An integer under a mark. -/
def fillInt (m : Mark) (letter : Char) (n : Int) : List Char :=
  let (base, baseMark, upper) := baseOf letter
  let ds := Nat.toDigits base n.natAbs
  let ds := if upper then ds.map Char.toUpper else ds
  let start := signText m (n < 0) ++ (if m.long then baseMark else [])
  pad m true start (padZeros (m.precision.getD 0) ds)

/-- A floating-point number under a mark. -/
def fillFloat (m : Mark) (letter : Char) (x : Binary64) : List Char :=
  let places := m.precision.getD 6
  let (negative, body) := match x with
    | .nan => (false, ['n', 'a', 'n'])
    | .infinite s => (s, ['i', 'n', 'f'])
    | .finite s k e =>
      let r := magnitudeRatio k e
      (s, match letter.toLower with
        | 'f' => fixedText m.long places r
        | 'e' => scientificText m.long places r
        | _ => generalText m.long places r)
  pad m true (signText m negative) (if letter.isUpper then body.map Char.toUpper else body)

/-- The name of the kind of a value. -/
def kindName (v : Value) : String :=
  match v.open? with
  | .scalar .null => "NoneType"
  | .scalar (.bool _) => "bool"
  | .scalar (.int _) => "int"
  | .scalar (.float _) => "float"
  | .scalar (.text _) => "str"
  | .scalar (.bytes _) => "bytes"
  | .scalar (.date _) => "datetime.date"
  | .scalar (.instant _) => "datetime.datetime"
  | .list _ => "list"
  | .pair _ _ => "tuple"
  | .set _ => "set"
  | _ => "dict"

/-- The integer part of a value for a mark of a letter. -/
def wholeOf (letter : Char) (v : Value) : Except FillFault Int :=
  let exact := letter == 'x' || letter == 'X' || letter == 'o'
  match v with
  | .scalar (.float x) =>
    if exact then .error (.notInteger letter "float")
    else match x with
      | .nan => .error .undefined
      | .infinite _ => .error .infinite
      | .finite s k e =>
        let r := magnitudeRatio k e
        .ok (if s then -((r.1 / r.2 : Nat) : Int) else (r.1 / r.2 : Nat))
  | .scalar s =>
    match s.asInt? with
    | some n => .ok n
    | none => .error (if exact then .notInteger letter v.kindName else .notReal letter v.kindName)
  | _ => .error (if exact then .notInteger letter v.kindName else .notReal letter v.kindName)

/-- The floating-point number of a value. -/
def realOf (v : Value) : Except FillFault Binary64 :=
  match v with
  | .scalar (.float x) => .ok x
  | .scalar s => match s.asInt? with
    | some n => .ok (Binary64.ofRatio (n < 0) n.natAbs 1)
    | none => .error (.notNumber v.kindName)
  | _ => .error (.notNumber v.kindName)

/-- The characters of a text of ASCII only. -/
def plainChars (s : String) : List Char :=
  s.toList.flatMap fun c => if c.toNat < 0x80 then [c] else Text.codeEscape c.toNat

/-- A value under a mark with a letter at a place. -/
def fillValue (m : Mark) (letter : Char) (place : Nat) (v : Value) : Except FillFault (List Char) :=
  let text := fun cs : List Char => Except.ok (pad m false [] (match m.precision with
    | some n => cs.take n
    | none => cs))
  match letter with
  | 's' => text v.display.toList
  | 'r' => text v.inspect.toList
  | 'a' => text (plainChars v.inspect)
  | 'c' => match v with
    | .text s => if s.length = 1 then .ok (pad m false [] s.toList) else .error .notCharacter
    | .scalar s => match s.asInt? with
      | some n =>
        if 0 ≤ n && n < 0x110000 then .ok (pad m false [] [Char.ofNat n.toNat])
        else .error .noCodePoint
      | none => .error .notCharacter
    | _ => .error .notCharacter
  | _ =>
    if ['d', 'i', 'u', 'x', 'X', 'o'].contains letter then do
      return fillInt m letter (← wholeOf letter v)
    else if ['e', 'E', 'f', 'F', 'g', 'G'].contains letter then do
      return fillFloat m letter (← realOf v)
    else .error (.unknownLetter letter place)

/-! ### Filling -/

/-- The values that marks still take: those of a list, one by one, or those of a mapping, by the
keys of marks, or as a whole once if it is not `used`. -/
inductive Supply where
  | list (vs : List Value)
  | mapping (entries : Entries) (used : Bool)

namespace Supply

/-- Takes the next value. -/
def next : Supply → Except FillFault (Value × Supply)
  | .list (v :: vs) => .ok (v, .list vs)
  | .list [] => .error .tooFew
  | .mapping es used => if used then .error .tooFew else .ok (.map es, .mapping es true)

/-- Takes the value of a key. -/
def under (key : String) : Supply → Except FillFault Value
  | .list _ => .error .notMapping
  | .mapping es _ => match es.get? key with
    | some v => .ok v
    | none => .error (.noKey key)

/-- Takes a number for a width or a precision. -/
def count (s : Supply) : Except FillFault (Int × Supply) := do
  match ← s.next with
  | (.scalar v, s) => match v.asInt? with
    | some n => return (n, s)
    | none => .error .starNotInteger
  | _ => .error .starNotInteger

end Supply

/-- Reads a width, and then the values that are left. -/
def readWidth (m : Mark) (s : Supply) (cs : List Char) :
    Except FillFault (Mark × Supply × List Char) := do
  match cs with
  | '*' :: cs =>
    let (n, s) ← s.count
    if n.natAbs > widthLimit then .error .tooWide
    return ({ m with width := n.natAbs, left := m.left || n < 0 }, s, cs)
  | cs =>
    let (n, cs) := readDigits cs
    if n > widthLimit then .error .tooWide
    return ({ m with width := n }, s, cs)

/-- Reads a precision, and then the values that are left. -/
def readPrecision (m : Mark) (s : Supply) (cs : List Char) :
    Except FillFault (Mark × Supply × List Char) := do
  match cs with
  | '.' :: '*' :: cs =>
    let (n, s) ← s.count
    if n.natAbs > precisionLimit then .error .tooLong
    return ({ m with precision := some n.toNat }, s, cs)
  | '.' :: cs =>
    let (n, cs) := readDigits cs
    if n > precisionLimit then .error .tooLong
    return ({ m with precision := some n }, s, cs)
  | cs => return (m, s, cs)

/-- The characters without the letter of a size. -/
def dropSize (cs : List Char) : List Char :=
  match cs with
  | c :: rest => if c = 'h' || c = 'l' || c = 'L' then rest else cs
  | [] => []

/-- Fills the marks of the characters that are left of a text of a length. -/
def fillChars (size : Nat) : Nat → Supply → List Char → Except FillFault (List Char)
  | 0, _, cs => .ok cs
  | _ + 1, s, [] =>
    match s with
    | .list (_ :: _) => .error .tooMany
    | _ => .ok []
  | fuel + 1, s, '%' :: cs => do
    let (key, cs) ← match cs with
      | '(' :: rest => match s, readKey 0 [] rest with
        | .list _, _ => .error .notMapping
        | _, none => .error .incompleteKey
        | _, some (k, rest) => pure (some k, rest)
      | cs => pure (none, cs)
    let keyed ← key.mapM fun k => s.under k
    let start : Supply := match keyed with
      | some v => .list [v]
      | none => s
    let (m, cs) := readFlags {} cs
    let (m, left, cs) ← readWidth m start cs
    let (m, left, cs) ← readPrecision m left cs
    match dropSize cs with
    | [] => .error .incomplete
    | '%' :: cs => return '%' :: (← fillChars size fuel (if keyed.isSome then s else left) cs)
    | c :: cs =>
      let (v, left) ← left.next
      let out ← fillValue m c (size - cs.length - 1) v
      return out ++ (← fillChars size fuel (if keyed.isSome then s else left) cs)
  | fuel + 1, s, c :: cs => do return c :: (← fillChars size fuel s cs)

/-- **The text** with values in the place of its marks; a single mapping that is not empty gives its
entries, and no values leave the text as it is. -/
def fill (text : String) (values : List Value) : Except FillFault String :=
  let cs := text.toList
  let supply : Supply := match values with
    | [v] => match v.asMap? with
      | some (e :: es) => .mapping (e :: es) false
      | _ => .list values
    | _ => .list values
  if values.isEmpty then .ok text
  else String.ofList <$> fillChars cs.length (cs.length + 1) supply cs

end ItemCatalog.Value
