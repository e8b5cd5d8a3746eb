/-! # Binary64: floating-point numbers of 64 bits, in exact arithmetic

A finite number is a sign, a mantissa below `2 ^ 53` and an exponent of two; all rounding is done on
quotients of natural numbers, to the nearest number and from halfway to the even mantissa. Two
numbers are equal as data if they have the same parts, so the two zeros differ and the undefined
number equals itself; `same` is the comparison of values. -/

namespace ItemCatalog.Number

/-- A floating-point number of 64 bits: undefined, infinite, or `± mantissa * 2 ^ exponent`. -/
inductive Binary64 where
  | nan
  | infinite (negative : Bool)
  | finite (negative : Bool) (mantissa : Nat) (exponent : Int)
deriving DecidableEq, Repr, Inhabited

/-- The quotient of two numbers at the nearest integer, from halfway at the even one. -/
def roundDiv (num den : Nat) : Nat :=
  let q := num / den
  let r := num % den
  if 2 * r < den then q else if den < 2 * r then q + 1 else q + q % 2

/-- The factor `b ^ e` as a fraction. -/
def powerRatio (b : Nat) : Int → Nat × Nat
  | .ofNat n => (Nat.pow b n, 1)
  | .negSucc n => (1, Nat.pow b (n + 1))

namespace Binary64

/-- The least exponent of a finite number. -/
def minExponent : Int := -1074

/-- The greatest exponent of a finite number. -/
def maxExponent : Int := 971

/-- The zero of a sign. -/
def zero (negative : Bool) : Binary64 :=
  .finite negative 0 minExponent

/-! ### Rounding -/

/-- The exponent at which the mantissa of `num / den` has 53 bits, or the least exponent. -/
def exponentOf (num den : Nat) : Int :=
  let l : Int := (num.log2 : Int) - den.log2
  let p := powerRatio 2 l
  let e := if den * p.1 ≤ num * p.2 then l - 52 else l - 53
  max e minExponent

/-- The finite number of a rounded mantissa, carried into the next exponent if it is full. -/
def normalize (negative : Bool) (mantissa : Nat) (exponent : Int) : Binary64 :=
  let full := mantissa == Nat.pow 2 53
  let e := if full then exponent + 1 else exponent
  if maxExponent < e then .infinite negative
  else .finite negative (if full then Nat.pow 2 52 else mantissa) e

/-- **Rounding:** the number nearest to `± num / den`. -/
def ofRatio (negative : Bool) (num den : Nat) : Binary64 :=
  if num = 0 then zero negative
  else
    let e := exponentOf num den
    let p := powerRatio 2 e
    normalize negative (roundDiv (num * p.2) (den * p.1)) e

/-- The number nearest to `± digits * 10 ^ exponent`. -/
def ofDecimal (negative : Bool) (digits : Nat) (exponent : Int) : Binary64 :=
  if digits = 0 then zero negative
  else
    let magnitude : Int := (Nat.toDigits 10 digits).length + exponent
    if 310 < magnitude then .infinite negative
    else if magnitude < -330 then zero negative
    else
      let p := powerRatio 10 exponent
      ofRatio negative (digits * p.1) p.2

/-- The number nearest to an integer, if that is finite. -/
def ofInt? (n : Int) : Option Binary64 :=
  match ofRatio (n < 0) n.natAbs 1 with
  | .infinite _ => none
  | x => some x

/-! ### Values -/

/-- The magnitude of a finite number as a fraction. -/
def ratio (mantissa : Nat) (exponent : Int) : Nat × Nat :=
  let p := powerRatio 2 exponent
  (mantissa * p.1, p.2)

/-- Whether two numbers have the same value. -/
def same : Binary64 → Binary64 → Bool
  | .infinite s, .infinite t => s == t
  | .finite s m e, .finite t n f => (m == 0 && n == 0) || (s == t && m == n && e == f)
  | _, _ => false

/-- Whether a number has the value of an integer. -/
def sameInt : Binary64 → Int → Bool
  | .finite s m e, n =>
    let r := ratio m e
    r.1 == n.natAbs * r.2 && (m == 0 || s == decide (n < 0))
  | _, _ => false

/-- Whether a number is zero. -/
def isZero : Binary64 → Bool
  | .finite _ m _ => m == 0
  | _ => false

/-- Whether a number has the sign bit. -/
def isNegative : Binary64 → Bool
  | .nan => false
  | .infinite s => s
  | .finite s _ _ => s

/-! ### Arithmetic -/

/-- The number of the opposite sign. -/
def neg : Binary64 → Binary64
  | .nan => .nan
  | .infinite s => .infinite !s
  | .finite s m e => .finite (!s) m e

/-- The mantissa with its sign. -/
def signed (negative : Bool) (m : Nat) : Int :=
  if negative then -(m : Int) else m

/-- The rounded sum. -/
def add : Binary64 → Binary64 → Binary64
  | .infinite s, .infinite t => if s = t then .infinite s else .nan
  | .infinite s, .finite .. => .infinite s
  | .finite .., .infinite t => .infinite t
  | .finite s m e, .finite t n f =>
    let low := min e f
    let scale := fun k : Int => (Nat.pow 2 (k - low).toNat : Int)
    let sum := signed s m * scale e + signed t n * scale f
    if sum = 0 then zero (s && t)
    else
      let p := powerRatio 2 low
      ofRatio (sum < 0) (sum.natAbs * p.1) p.2
  | _, _ => .nan

/-- The rounded product. -/
def mul : Binary64 → Binary64 → Binary64
  | .nan, _ => .nan
  | _, .nan => .nan
  | .infinite s, y => if y.isZero then .nan else .infinite (s != y.isNegative)
  | x, .infinite t => if x.isZero then .nan else .infinite (t != x.isNegative)
  | .finite s m e, .finite t n f =>
    let p := powerRatio 2 (e + f)
    ofRatio (s != t) (m * n * p.1) p.2

end Binary64

end ItemCatalog.Number
