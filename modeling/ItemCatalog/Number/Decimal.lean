import ItemCatalog.Number.Binary64
import ItemCatalog.Number.Render

/-! # Decimals: floating-point numbers with a fixed count of digits

`fixedText` writes a number with a count of digits after the point, `scientificText` with a count of
digits after the leading one and an exponent, `generalText` with a count of digits in all, in the
shorter of the two forms and without zeros at the end. All round to the nearest decimal, from
halfway to the even digit. -/

namespace ItemCatalog.Number

/-- The magnitude of a finite number as a fraction. -/
def magnitudeRatio (mantissa : Nat) (exponent : Int) : Nat × Nat :=
  let p := powerRatio 2 exponent
  (mantissa * p.1, p.2)

/-- A fraction times a power of ten, at the nearest integer. -/
def scaled (r : Nat × Nat) (places : Int) : Nat :=
  let p := powerRatio 10 places
  roundDiv (r.1 * p.1) (r.2 * p.2)

/-- Digits with a point before the last `places` of them; without places the point stands only if
`point`. -/
def withPoint (point : Bool) (places : Nat) (ds : List Char) : List Char :=
  let ds := padZeros (places + 1) ds
  let whole := ds.take (ds.length - places)
  let tail := ds.drop (ds.length - places)
  if tail.isEmpty && !point then whole else whole ++ '.' :: tail

/-- A magnitude with a count of digits after the point. -/
def fixedText (point : Bool) (places : Nat) (r : Nat × Nat) : List Char :=
  withPoint point places (digitsOf (scaled r places))

/-- The power of ten of the leading digit of a fraction, before any rounding. -/
def leadOf (r : Nat × Nat) : Int :=
  let guess : Int := (digitsOf r.1).length - (digitsOf r.2).length
  let p := powerRatio 10 guess
  if r.2 * p.1 ≤ r.1 * p.2 then guess else guess - 1

/-- The digits of a fraction after rounding to `count`, and the power of ten of the first. -/
def leadingDigits (count : Nat) (r : Nat × Nat) : List Char × Int :=
  if r.1 = 0 then (List.replicate count '0', 0)
  else
    let lead := leadOf r
    let n := scaled r (count - 1 - lead)
    if n = Nat.pow 10 count then (digitsOf (n / 10), lead + 1) else (digitsOf n, lead)

/-- A magnitude with a count of digits after the leading one, and an exponent. -/
def scientificText (point : Bool) (places : Nat) (r : Nat × Nat) : List Char :=
  let (ds, lead) := leadingDigits (places + 1) r
  withPoint point places ds ++ exponentText 2 lead

/-- A text with a point without the zeros at its end, nor the point if nothing follows. -/
def trimZeros (cs : List Char) : List Char :=
  if cs.contains '.' then
    ((cs.reverse.dropWhile (· == '0')).dropWhile (· == '.')).reverse
  else cs

/-- A magnitude with a count of digits in all; zeros at the end stay only if `point`. -/
def generalText (point : Bool) (digits : Nat) (r : Nat × Nat) : List Char :=
  let digits := max digits 1
  let (ds, lead) := leadingDigits digits r
  let trim := fun cs => if point then cs else trimZeros cs
  if -4 ≤ lead && lead < digits then
    trim (fixedText point (Int.toNat (digits - 1 - lead)) r)
  else trim (withPoint point (digits - 1) ds) ++ exponentText 2 lead

end ItemCatalog.Number
