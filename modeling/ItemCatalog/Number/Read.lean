import ItemCatalog.Number.Render
import ItemCatalog.Text.Blank
import ItemCatalog.Text.Quoted
import ItemCatalog.Text.Word

/-! # Number reading: integers in a base and floating-point numbers

A number is read with blanks at both ends, a sign, digits of any script and single underscores
between digits. An integer in base two, eight or sixteen may carry the mark of its base. The words
for the infinities and the undefined number are read in any case. -/

namespace ItemCatalog.Number

open ItemCatalog.Text

/-- Why a text is not a number: it is no integer in its base, a decimal integer of more digits than
are converted, or no floating-point number; or its integer is beyond the floating-point numbers. -/
inductive NumberFault where
  | integer (base : Nat) (text : String)
  | tooManyDigits (count : Nat)
  | floating (text : String)
  | tooLarge
deriving DecidableEq, Repr

/-- The greatest count of digits of a decimal integer that is converted. -/
def maxDigits : Nat := 4300

/-- The wording of a fault. -/
def NumberFault.message : NumberFault → String
  | .integer base text =>
    s!"invalid literal for int() with base {base}: {String.ofList ((quote text).toList.take 200)}"
  | .tooManyDigits count =>
    s!"Exceeds the limit ({maxDigits} digits) for integer string conversion: value has {count} " ++
      "digits; use sys.set_int_max_str_digits() to increase the limit"
  | .floating text => s!"could not convert string to float: {quote text}"
  | .tooLarge => "int too large to convert to float"

/-! ### Digits -/

/-- The value of a digit or letter, below thirty-six. -/
def digitValue? (c : Char) : Option Nat :=
  match decimalValue? c with
  | some d => some d
  | none =>
    if 'a' ≤ c && c ≤ 'z' then some (c.toNat - 87)
    else if 'A' ≤ c && c ≤ 'Z' then some (c.toNat - 55)
    else none

/-- The digits of a base, with single underscores between them; `between` says whether an underscore
or the end may come next. -/
def digitsIn? (base : Nat) : Bool → List Char → Option (List Nat)
  | between, [] => if between then some [] else none
  | between, '_' :: cs => if between then digitsIn? base false cs else none
  | _, c :: cs =>
    match digitValue? c with
    | some d => if d < base then (digitsIn? base true cs).map (d :: ·) else none
    | none => none

/-- The value of digits in a base. -/
def ofDigits (base : Nat) (ds : List Nat) : Nat :=
  ds.foldl (fun n d => base * n + d) 0

/-- The sign in front of a number and the rest. -/
def readSign : List Char → Bool × List Char
  | '-' :: cs => (true, cs)
  | '+' :: cs => (false, cs)
  | cs => (false, cs)

/-- The letter that marks a base after a zero. -/
def baseMark (base : Nat) (c : Char) : Bool :=
  match base with
  | 2 => c == 'b' || c == 'B'
  | 8 => c == 'o' || c == 'O'
  | 16 => c == 'x' || c == 'X'
  | _ => false

/-- The digits after the mark of the base, if there is one; an underscore may follow the mark. -/
def dropBaseMark (base : Nat) : List Char → List Char
  | '0' :: m :: cs =>
    if baseMark base m then (match cs with
      | '_' :: rest => rest
      | rest => rest)
    else '0' :: m :: cs
  | cs => cs

/-- **The integer** that a text writes in a base. -/
def readInt (base : Nat) (text : String) : Except NumberFault Int :=
  let (negative, body) := readSign (stripChars text.toList)
  match digitsIn? base false (dropBaseMark base body) with
  | none => .error (.integer base text)
  | some ds =>
    if base == 10 && maxDigits < ds.length then .error (.tooManyDigits ds.length)
    else
      let n := ofDigits base ds
      .ok (if negative then -(n : Int) else n)

/-! ### Floating-point numbers -/

/-- Digits with single underscores between them at the start of a text, and the rest. -/
def readDigits : List Char → List Nat × List Char
  | '_' :: c :: cs =>
    match decimalValue? c with
    | some d => let r := readDigits cs; (d :: r.1, r.2)
    | none => ([], '_' :: c :: cs)
  | c :: cs =>
    match decimalValue? c with
    | some d => let r := readDigits cs; (d :: r.1, r.2)
    | none => ([], c :: cs)
  | [] => ([], [])

/-- Digits that start with a digit, and the rest. -/
def readPlainDigits (cs : List Char) : List Nat × List Char :=
  match cs with
  | '_' :: _ => ([], cs)
  | _ => readDigits cs

/-- The exponent at the end of a decimal: none, or a mark, a sign and digits. -/
def readExponent? : List Char → Option Int
  | [] => some 0
  | c :: cs =>
    if c == 'e' || c == 'E' then
      let (negative, body) := readSign cs
      match readPlainDigits body with
      | (d :: ds, []) =>
        let n : Int := ofDigits 10 (d :: ds)
        some (if negative then -n else n)
      | _ => none
    else none

/-- The decimal that unsigned characters write. -/
def readDecimal? (cs : List Char) : Option Decimal :=
  let (whole, rest) := readPlainDigits cs
  let (part, rest) := match rest with
    | '.' :: tail => readPlainDigits tail
    | tail => ([], tail)
  if whole.isEmpty && part.isEmpty then none
  else (readExponent? rest).map fun e => ⟨ofDigits 10 (whole ++ part), e - part.length⟩

/-- **The floating-point number** that a text writes. -/
def readFloat (text : String) : Except NumberFault Binary64 :=
  let (negative, body) := readSign (stripChars text.toList)
  let word := String.ofList (body.map Char.toLower)
  if word == "inf" || word == "infinity" then .ok (.infinite negative)
  else if word == "nan" then .ok .nan
  else match readDecimal? body with
    | some d => .ok (Binary64.ofDecimal negative d.digits d.exponent)
    | none => .error (.floating text)

/-- The floating-point number nearest to an integer. -/
def floatOfInt (n : Int) : Except NumberFault Binary64 :=
  match Binary64.ofInt? n with
  | some x => .ok x
  | none => .error .tooLarge

end ItemCatalog.Number
