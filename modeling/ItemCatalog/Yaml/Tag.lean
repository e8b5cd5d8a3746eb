import ItemCatalog.Yaml.Fault

/-! # Tags: the types of nodes

A tag names the type of a node. A plain scalar without a tag gets one from its text: the words for
null and the truth values, the forms of integers and floating-point numbers, dates and times, and
two marks with a meaning inside mappings; any other text is a text. A line end after such a form
does not count. -/

namespace ItemCatalog.Yaml

/-- The type of a node. One marks entries that are merged into a mapping, and one the value that a
mapping stands for. -/
inductive Tag where
  | null
  | bool
  | int
  | float
  | binary
  | timestamp
  | orderedMap
  | pairs
  | set
  | text
  | sequence
  | mapping
  | merge
  | value
  | other (name : String)
deriving DecidableEq, Repr, Inhabited

/-- The tag of a name. -/
def Tag.ofName : String → Tag
  | "tag:yaml.org,2002:null" => .null
  | "tag:yaml.org,2002:bool" => .bool
  | "tag:yaml.org,2002:int" => .int
  | "tag:yaml.org,2002:float" => .float
  | "tag:yaml.org,2002:binary" => .binary
  | "tag:yaml.org,2002:timestamp" => .timestamp
  | "tag:yaml.org,2002:omap" => .orderedMap
  | "tag:yaml.org,2002:pairs" => .pairs
  | "tag:yaml.org,2002:set" => .set
  | "tag:yaml.org,2002:str" => .text
  | "tag:yaml.org,2002:seq" => .sequence
  | "tag:yaml.org,2002:map" => .mapping
  | "tag:yaml.org,2002:merge" => .merge
  | "tag:yaml.org,2002:value" => .value
  | name => .other name

/-! ### Forms of plain texts -/

/-- The truth values and the words for them. -/
def truthWords : List (String × Bool) :=
  [("yes", true), ("no", false), ("true", true), ("false", false), ("on", true), ("off", false)]

/-- Whether a text is a word in lower case, in upper case or with a capital first letter. -/
def isWordForm (word : String) (cs : List Char) : Bool :=
  let w := word.toList
  let upper := w.map Char.toUpper
  cs == w || cs == upper || cs == upper.take 1 ++ w.drop 1

/-- Whether a text is a truth word. -/
def isTruthWord (cs : List Char) : Bool :=
  truthWords.any fun e => isWordForm e.1 cs

/-- The characters after a sign, if there is one. -/
def dropSign : List Char → List Char
  | '+' :: cs => cs
  | '-' :: cs => cs
  | cs => cs

/-- Whether a character is a digit or an underscore. -/
def isDigitOrMark (c : Char) : Bool :=
  c.isDigit || c == '_'

/-- Whether a text is a digit and then digits and underscores. -/
def isDigits : List Char → Bool
  | c :: cs => c.isDigit && cs.all isDigitOrMark
  | [] => false

/-- Whether a text is a colon and a number below sixty, once or more often. -/
def isSixties (cs : List Char) : Bool :=
  match cs with
  | ':' :: d :: [] => d.isDigit
  | ':' :: d :: ':' :: rest => d.isDigit && isSixties (':' :: rest)
  | ':' :: d :: e :: [] => '0' ≤ d && d ≤ '5' && e.isDigit
  | ':' :: d :: e :: rest => '0' ≤ d && d ≤ '5' && e.isDigit && isSixties rest
  | _ => false
termination_by cs.length

/-- Whether a text is the exponent of a floating-point number, or empty. -/
def isExponent : List Char → Bool
  | [] => true
  | c :: s :: ds =>
    (c == 'e' || c == 'E') && (s == '+' || s == '-') && !ds.isEmpty && ds.all Char.isDigit
  | _ => false

/-- Whether a text is a floating-point number. -/
def isFloat (cs : List Char) : Bool :=
  let body := dropSign cs
  let unsigned := body.length == cs.length
  let whole := body.takeWhile isDigitOrMark
  let rest := body.dropWhile isDigitOrMark
  match rest with
  | '.' :: tail =>
    let afterPoint := tail.dropWhile isDigitOrMark
    (isDigits whole && isExponent afterPoint) ||
      (whole.isEmpty && unsigned && isDigits (tail.takeWhile isDigitOrMark) &&
        isExponent afterPoint) ||
      (whole.isEmpty && isWordForm "inf" tail) ||
      (whole.isEmpty && unsigned &&
        (tail == "nan".toList || tail == "NaN".toList || tail == "NAN".toList))
  | ':' :: _ =>
    let sixties := rest.takeWhile (· != '.')
    match rest.dropWhile (· != '.') with
    | '.' :: tail => isDigits whole && isSixties sixties && tail.all isDigitOrMark
    | _ => false
  | _ => false

/-- Whether a text is an integer. -/
def isInteger (cs : List Char) : Bool :=
  match dropSign cs with
  | ['0'] => true
  | '0' :: 'b' :: ds => !ds.isEmpty && ds.all fun d => d == '0' || d == '1' || d == '_'
  | '0' :: 'x' :: ds => !ds.isEmpty && ds.all fun d => (hexDigit? d) || d == '_'
  | '0' :: ds => ds.all fun d => ('0' ≤ d && d ≤ '7') || d == '_'
  | body =>
    let whole := body.takeWhile isDigitOrMark
    let rest := body.dropWhile isDigitOrMark
    isDigits whole && (rest.isEmpty || isSixties rest)
where
  /-- Whether a character is a hexadecimal digit. -/
  hexDigit? (d : Char) : Bool := d.isDigit || ('a' ≤ d && d ≤ 'f') || ('A' ≤ d && d ≤ 'F')

/-! ### Dates and times -/

/-- The digits of a written date or time: those of the year, the month and the day; of hour, minute
and second and of the part of a second, if there is a time; and the sign, hours and minutes of the
offset, if one is written, or none for the letter that stands for no offset. -/
structure Stamp where
  year : List Char
  month : List Char
  day : List Char
  time : Option (List Char × List Char × List Char × List Char)
  zone : Option (Option (Bool × List Char × List Char))

/-- Between `least` and `most` digits, and the rest; digits are taken while there are any. -/
def someDigits (least most : Nat) (cs : List Char) : Option (List Char × List Char) :=
  let ds := (cs.take most).takeWhile Char.isDigit
  if ds.length < least then none else some (ds, cs.drop ds.length)

/-- The rest after a character. -/
def afterChar (x : Char) : List Char → Option (List Char)
  | c :: cs => if c = x then some cs else none
  | [] => none

/-- The offset at the end of a time. -/
def readZone (cs : List Char) : Option (Option (Option (Bool × List Char × List Char))) :=
  match cs.dropWhile fun c => c == ' ' || c == '\t' with
  | [] => if cs.isEmpty then some none else none
  | 'Z' :: [] => some (some none)
  | s :: rest =>
    if s == '+' || s == '-' then do
      let (hours, rest) ← someDigits 1 2 rest
      match rest with
      | [] => some (some (some (s == '-', hours, [])))
      | _ => do
        let (minutes, rest) ← someDigits 2 2 (← afterChar ':' rest)
        if rest.isEmpty then some (some (some (s == '-', hours, minutes))) else none
    else none

/-- The parts of a date, or of a date with a time. -/
def readStamp (cs : List Char) : Option Stamp := do
  let (year, cs) ← someDigits 4 4 cs
  let (month, cs) ← someDigits 1 2 (← afterChar '-' cs)
  let (day, cs) ← someDigits 1 2 (← afterChar '-' cs)
  if cs.isEmpty then return ⟨year, month, day, none, none⟩
  else do
    let cs ← match cs with
      | 'T' :: rest => some rest
      | 't' :: rest => some rest
      | c :: rest =>
        if c == ' ' || c == '\t' then some (rest.dropWhile fun c => c == ' ' || c == '\t') else none
      | [] => none
    let (hour, cs) ← someDigits 1 2 cs
    let (minute, cs) ← someDigits 2 2 (← afterChar ':' cs)
    let (second, cs) ← someDigits 2 2 (← afterChar ':' cs)
    let (part, cs) := match cs with
      | '.' :: rest => (rest.takeWhile Char.isDigit, rest.dropWhile Char.isDigit)
      | rest => ([], rest)
    let zone ← readZone cs
    return ⟨year, month, day, some (hour, minute, second, part), zone⟩

/-- Whether a text is a date, with two digits for month and day, or a date with a time. -/
def isTimestamp (cs : List Char) : Bool :=
  match readStamp cs with
  | some s => s.time.isSome || (s.month.length == 2 && s.day.length == 2)
  | none => false

/-! ### Resolution -/

/-- The text without a line end after it. -/
def dropLineEnd (cs : List Char) : List Char :=
  if cs.getLast? == some '\n' then cs.dropLast else cs

/-- Whether a text is the form of a null. -/
def isNullForm (cs : List Char) : Bool :=
  cs.isEmpty || cs == ['~'] || isWordForm "null" cs

/-- **The tag of a plain text.** -/
def Tag.ofPlain (text : String) : Tag :=
  let cs := dropLineEnd text.toList
  if text.isEmpty then .null
  else if cs.isEmpty then .text
  else if isTruthWord cs then .bool
  else if isFloat cs then .float
  else if isInteger cs then .int
  else if cs == ['<', '<'] then .merge
  else if isNullForm cs then .null
  else if isTimestamp cs then .timestamp
  else if cs == ['='] then .value
  else if cs == ['!'] || cs == ['&'] || cs == ['*'] then .other "tag:yaml.org,2002:yaml"
  else .text

end ItemCatalog.Yaml
