import ItemCatalog.Number.Shortest

/-! # Number texts: how integers and floating-point numbers are written

An integer is written in decimal. A floating-point number is written with its shortest digits:
positionally, with at least one digit after the point, while its leading digit stands between
`10 ^ (-4)` and `10 ^ 15`, and otherwise with an exponent of a sign and at least two digits. -/

namespace ItemCatalog.Number

/-- The decimal digits of a number. -/
def digitsOf (n : Nat) : List Char :=
  Nat.toDigits 10 n

/-- The text of an integer. -/
def renderInt (n : Int) : String :=
  String.ofList ((if n < 0 then ['-'] else []) ++ digitsOf n.natAbs)

/-- How a floating-point number is written: between which powers of ten of its leading digit
positionally, with how many digits of an exponent at least, and with what behind the point where no
other digit follows. -/
structure FloatFormat where
  leastPositional : Int
  greatestPositional : Int
  exponentWidth : Nat
  wholeTail : List Char

/-- The format of all number texts: `0.0001`, `1.0`, `1e+16`, `1e-05`. -/
def floatFormat : FloatFormat := ⟨-4, 15, 2, ['0']⟩

/-- The digits without the zeros at the end, of which one digit stays. -/
def dropTrailingZeros (ds : List Char) : List Char :=
  match (ds.reverse.dropWhile (· == '0')).reverse with
  | [] => ['0']
  | rest => rest

/-- The characters `ds` after zeros up to the width. -/
def padZeros (width : Nat) (ds : List Char) : List Char :=
  List.replicate (width - ds.length) '0' ++ ds

/-- Digits whose leading one has the power `lead`, written positionally. -/
def positional (fmt : FloatFormat) (ds : List Char) (lead : Int) : List Char :=
  if lead < 0 then
    '0' :: '.' :: List.replicate (-lead - 1).toNat '0' ++ ds
  else
    let whole := lead.toNat + 1
    let tail := ds.drop whole
    ds.take whole ++ List.replicate (whole - ds.length) '0' ++ '.' ::
      (if tail.isEmpty then fmt.wholeTail else tail)

/-- The sign and the digits of an exponent. -/
def exponentText (width : Nat) (e : Int) : List Char :=
  'e' :: (if e < 0 then '-' else '+') :: padZeros width (digitsOf e.natAbs)

/-- Digits whose leading one has the power `lead`, written with an exponent. -/
def scientific (fmt : FloatFormat) (ds : List Char) (lead : Int) : List Char :=
  (match ds with
    | [d] => [d]
    | d :: rest => d :: '.' :: rest
    | [] => []) ++ exponentText fmt.exponentWidth lead

/-- The text of a magnitude. -/
def renderMagnitude (fmt : FloatFormat) (mantissa : Nat) (exponent : Int) : List Char :=
  if mantissa = 0 then '0' :: '.' :: fmt.wholeTail
  else
    let d := Binary64.shortest mantissa exponent
    let all := digitsOf d.digits
    let lead := (all.length : Int) + d.exponent - 1
    let ds := dropTrailingZeros all
    if fmt.leastPositional ≤ lead && lead ≤ fmt.greatestPositional then positional fmt ds lead
    else scientific fmt ds lead

/-- **The text** of a floating-point number. -/
def renderFloat (x : Binary64) : String :=
  match x with
  | .nan => "nan"
  | .infinite s => if s then "-inf" else "inf"
  | .finite s m e => String.ofList ((if s then ['-'] else []) ++ renderMagnitude floatFormat m e)

end ItemCatalog.Number
