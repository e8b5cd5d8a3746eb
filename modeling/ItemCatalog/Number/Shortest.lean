import ItemCatalog.Number.Binary64

/-! # Shortest digits: the fewest decimal digits that read back as a number

A positive number is written with the least count of digits for which some decimal of that count
rounds to the number; of two such decimals the nearer one is taken, and from halfway the even one.
On the grid of each digit count only the two neighbours of the number can qualify. -/

namespace ItemCatalog.Number

/-- The decimal `digits * 10 ^ exponent`. -/
structure Decimal where
  digits : Nat
  exponent : Int
deriving DecidableEq, Repr, Inhabited

/-- The least `k` of the five from `k₀` on with `num / den < 10 ^ k`. -/
def leastPower (num den : Nat) (k₀ : Int) : Nat → Int
  | 0 => k₀
  | n + 1 =>
    let p := powerRatio 10 k₀
    if num * p.2 < den * p.1 then k₀ else leastPower num den (k₀ + 1) n

/-- The power of ten just above `num / den`. -/
def decimalMagnitude (num den : Nat) : Int :=
  leastPower num den (((num.log2 : Int) - den.log2) * 30103 / 100000 - 2) 6

namespace Binary64

/-- Whether a decimal rounds to the positive number with these parts. -/
def readsBack (mantissa : Nat) (exponent : Int) (d : Decimal) : Bool :=
  ofDecimal false d.digits d.exponent == .finite false mantissa exponent

/-- The decimal of the grid `10 ^ place` that reads back, if there is one. -/
def onGrid (mantissa : Nat) (exponent place : Int) : Option Decimal :=
  let r := ratio mantissa exponent
  let p := powerRatio 10 place
  let num := r.1 * p.2
  let den := r.2 * p.1
  let low : Decimal := ⟨num / den, place⟩
  let high : Decimal := ⟨num / den + 1, place⟩
  match readsBack mantissa exponent low, readsBack mantissa exponent high with
  | true, true => some ⟨roundDiv num den, place⟩
  | true, false => some low
  | false, true => some high
  | false, false => none

/-- The first grid, from `n` more digits down, on which the number reads back. -/
def firstGrid (mantissa : Nat) (exponent magnitude : Int) : Nat → Nat → Decimal
  | _, 0 => ⟨0, 0⟩
  | count, n + 1 =>
    match onGrid mantissa exponent (magnitude - count) with
    | some d => d
    | none => firstGrid mantissa exponent magnitude (count + 1) n

/-- **The shortest decimal** that rounds to the positive number with these parts. -/
def shortest (mantissa : Nat) (exponent : Int) : Decimal :=
  let r := ratio mantissa exponent
  firstGrid mantissa exponent (decimalMagnitude r.1 r.2) 1 17

end Binary64

end ItemCatalog.Number
