import Mathlib.Algebra.Order.Field.Power
import Mathlib.Tactic.Positivity
import ItemCatalog.Proofs.Number.Digits

/-! # Numerals: decimals without sign and exponent

A numeral is digits, with a point and more digits if it has a part below one. This module says which
rational it writes, that a tidy one (without needless zeros) is the only one of its rational, and
what the reader of decimals makes of it. -/

namespace ItemCatalog.Number

open ItemCatalog.Text

/-- Digits have no zero at the end, or are the zero. -/
def NoTrailingZero (cs : List Char) : Prop :=
  cs = ['0'] ∨ cs.getLast? ≠ some '0'

/-- A decimal without sign and exponent: the digits before the point, and those after it, if there
is one. -/
structure Numeral where
  whole : List Char
  part : Option (List Char)
  whole_digits : IsDigits whole
  part_digits : ∀ ds ∈ part, IsDigits ds

namespace Numeral

/-- The digits after the point. -/
def tail (w : Numeral) : List Char :=
  w.part.getD []

/-- The characters of a numeral. -/
def chars (w : Numeral) : List Char :=
  match w.part with
  | none => w.whole
  | some ds => w.whole ++ '.' :: ds

/-- The text of a numeral. -/
def text (w : Numeral) : String :=
  String.ofList w.chars

/-- The rational that a numeral writes. -/
def rational (w : Numeral) : ℚ :=
  digitsValue 10 (w.whole ++ w.tail) * 10 ^ (-(w.tail.length : ℤ))

/-- A numeral has a point, and no needless zeros at either end. -/
def Tidy (w : Numeral) : Prop :=
  NoLeadingZero w.whole ∧ ∃ ds, w.part = some ds ∧ NoTrailingZero ds

/-- The numeral of digits on both sides of a point. -/
def withPoint {whole part : List Char} (hwhole : IsDigits whole) (hpart : IsDigits part) :
    Numeral :=
  ⟨whole, some part, hwhole, fun _ hds => Option.some.inj hds ▸ hpart⟩

variable (w : Numeral)

theorem tail_isDigit : ∀ c ∈ w.tail, c.isDigit = true := by
  intro c hc
  unfold tail at hc
  cases hpart : w.part with
  | none => simp [hpart] at hc
  | some ds =>
    rw [hpart, Option.getD_some] at hc
    exact (w.part_digits ds hpart).isDigit c hc

theorem rational_nonneg : 0 ≤ w.rational := by
  unfold rational
  positivity

/-- A numeral writes the sum of its whole part and of its digits after the point. -/
theorem rational_eq_add : w.rational =
    digitsValue 10 w.whole + digitsValue 10 w.tail * 10 ^ (-(w.tail.length : ℤ)) := by
  unfold rational
  rw [digitsValue_append]
  push_cast
  rw [add_mul, mul_assoc, ← zpow_natCast, ← zpow_add₀ (by norm_num), add_neg_cancel, zpow_zero,
    mul_one]

theorem tail_lt_one : (digitsValue 10 w.tail : ℚ) * 10 ^ (-(w.tail.length : ℤ)) < 1 := by
  have hlt : (digitsValue 10 w.tail : ℚ) < 10 ^ w.tail.length := by
    exact_mod_cast digitsValue_lt w.tail_isDigit
  rw [zpow_neg, zpow_natCast, ← div_eq_mul_inv, div_lt_one (by positivity)]
  exact hlt

/-! ### What a numeral is read as -/

variable {w} in
theorem chars_of_none (h : w.part = none) : w.chars = w.whole := by
  unfold chars
  rw [h]

variable {w} in
theorem text_of_none (h : w.part = none) : w.text = String.ofList w.whole :=
  congrArg String.ofList (chars_of_none h)

theorem mem_chars {c : Char} (hc : c ∈ w.chars) : c.isDigit = true ∨ c = '.' := by
  unfold chars at hc
  cases hpart : w.part with
  | none =>
    rw [hpart] at hc
    exact .inl (w.whole_digits.isDigit c hc)
  | some ds =>
    rw [hpart] at hc
    rcases List.mem_append.mp hc with hc | hc
    · exact .inl (w.whole_digits.isDigit c hc)
    · rcases List.mem_cons.mp hc with rfl | hc
      · exact .inr rfl
      · exact .inl ((w.part_digits ds hpart).isDigit c hc)

/-- No character of a numeral is anything but a digit or a point. -/
theorem notMem_chars {c : Char} (hdigit : c.isDigit = false) (hpoint : c ≠ '.') : c ∉ w.chars := by
  intro hc
  rcases w.mem_chars hc with h | h
  · rw [h] at hdigit
    cases hdigit
  · exact hpoint h

/-- Numerals of the same characters are the same. -/
theorem chars_inj {w w' : Numeral} (h : w.chars = w'.chars) : w = w' := by
  obtain ⟨whole, part, hwhole, hpart⟩ := w
  obtain ⟨whole', part', hwhole', hpart'⟩ := w'
  -- The whole part is what stands in front of the first character that is no digit.
  have htake : ∀ (ds rest : List Char), (∀ c ∈ ds, c.isDigit = true) →
      (ds ++ '.' :: rest).takeWhile Char.isDigit = ds := by
    intro ds rest hds
    rw [List.takeWhile_append_of_pos hds, List.takeWhile_cons_of_neg (by decide), List.append_nil]
  have htake' : ∀ ds : List Char, (∀ c ∈ ds, c.isDigit = true) →
      ds.takeWhile Char.isDigit = ds := fun ds => List.takeWhile_eq_self_iff.mpr
  have hsame := congrArg (List.takeWhile Char.isDigit) h
  unfold chars at h hsame
  cases part <;> cases part' <;> simp only at h hsame
  case none.none =>
    subst h
    rfl
  case none.some ds =>
    rw [htake' whole hwhole.isDigit, htake whole' ds hwhole'.isDigit] at hsame
    simp [hsame] at h
  case some.none ds =>
    rw [htake whole ds hwhole.isDigit, htake' whole' hwhole'.isDigit] at hsame
    simp [hsame] at h
  case some.some ds ds' =>
    rw [htake whole ds hwhole.isDigit, htake whole' ds' hwhole'.isDigit] at hsame
    subst hsame
    obtain rfl : ds = ds' := by simpa using h
    rfl

theorem text_inj {w w' : Numeral} (h : w.text = w'.text) : w = w' :=
  chars_inj (String.ofList_injective h)

/-- Digits after a point that write the same and end in no needless zero are the same. -/
theorem part_eq_of_le {ds ds' : List Char} (h : IsDigits ds) (h' : IsDigits ds')
    (hzero : NoTrailingZero ds') (hle : ds.length ≤ ds'.length)
    (hvalue : (digitsValue 10 ds : ℚ) * 10 ^ (-(ds.length : ℤ)) =
      digitsValue 10 ds' * 10 ^ (-(ds'.length : ℤ))) : ds = ds' := by
  obtain ⟨k, hk⟩ := Nat.exists_eq_add_of_le hle
  have hpad : digitsValue 10 (ds ++ List.replicate k '0') = digitsValue 10 ds' := by
    rw [digitsValue_append, digitsValue_zeros, List.length_replicate, Nat.add_zero]
    have hpow : (10 : ℚ) ^ (-(ds.length : ℤ)) = 10 ^ (k : ℤ) * 10 ^ (-(ds'.length : ℤ)) := by
      rw [← zpow_add₀ (by norm_num), hk]
      congr 1
      push_cast
      ring
    rw [hpow, ← mul_assoc] at hvalue
    have := mul_right_cancel₀ (by positivity) hvalue
    rw [zpow_natCast] at this
    exact_mod_cast this
  have heq : ds ++ List.replicate k '0' = ds' := by
    refine eq_of_digitsValue_eq (h.append fun c => isDigit_of_mem_zeros).isDigit h'.isDigit ?_ hpad
    rw [List.length_append, List.length_replicate, hk]
  cases k with
  | zero => simpa using heq
  | succ k =>
    have hlast : ds'.getLast? = some '0' := by
      rw [← heq, List.replicate_succ', ← List.append_assoc, List.getLast?_concat]
    rcases hzero with rfl | hzero
    · have := List.length_pos_iff.mpr h.ne_nil
      simp only [List.length_singleton] at hk
      omega
    · exact absurd hlast hzero

/-- **A tidy numeral is the only one of its rational.** -/
theorem Tidy.eq_of_rational {w w' : Numeral} (h : w.Tidy) (h' : w'.Tidy)
    (heq : w.rational = w'.rational) : w = w' := by
  obtain ⟨hwhole, ds, hpart, hlast⟩ := h
  obtain ⟨hwhole', ds', hpart', hlast'⟩ := h'
  have htail : w.tail = ds := by rw [tail, hpart, Option.getD_some]
  have htail' : w'.tail = ds' := by rw [tail, hpart', Option.getD_some]
  have hlt := w.tail_lt_one
  have hlt' := w'.tail_lt_one
  rw [rational_eq_add, rational_eq_add] at heq
  rw [htail] at heq hlt
  rw [htail'] at heq hlt'
  -- The whole parts are the integers below.
  have hvalue : digitsValue 10 w.whole = digitsValue 10 w'.whole := by
    have hpos : (0 : ℚ) ≤ digitsValue 10 ds * 10 ^ (-(ds.length : ℤ)) := by positivity
    have hpos' : (0 : ℚ) ≤ digitsValue 10 ds' * 10 ^ (-(ds'.length : ℤ)) := by positivity
    have hbelow : (digitsValue 10 w.whole : ℚ) < digitsValue 10 w'.whole + 1 := by linarith
    have habove : (digitsValue 10 w'.whole : ℚ) < digitsValue 10 w.whole + 1 := by linarith
    have hbelow' : digitsValue 10 w.whole < digitsValue 10 w'.whole + 1 := by exact_mod_cast hbelow
    have habove' : digitsValue 10 w'.whole < digitsValue 10 w.whole + 1 := by exact_mod_cast habove
    omega
  have hsame : w.whole = w'.whole := by
    rw [← digitsOf_digitsValue w.whole_digits hwhole, hvalue,
      digitsOf_digitsValue w'.whole_digits hwhole']
  rw [hvalue] at heq
  have hparts := add_left_cancel heq
  have hds : ds = ds' := by
    rcases le_total ds.length ds'.length with hle | hle
    · exact part_eq_of_le (w.part_digits ds hpart) (w'.part_digits ds' hpart') hlast' hle hparts
    · exact (part_eq_of_le (w'.part_digits ds' hpart') (w.part_digits ds hpart) hlast hle
        hparts.symm).symm
  refine chars_inj ?_
  unfold chars
  rw [hpart, hpart', hsame, hds]

end Numeral

/-! ### Reading -/

/-- What follows digits is no part of them. -/
def EndsDigits (rest : List Char) : Prop :=
  ∀ c ∈ rest.head?, decimalValue? c = none ∧ c ≠ '_'

theorem readDigits_digits {cs rest : List Char} (h : ∀ c ∈ cs, c.isDigit = true)
    (hrest : EndsDigits rest) :
    readDigits (cs ++ rest) = (cs.map fun c => c.toNat - 48, rest) := by
  induction cs with
  | nil =>
    cases rest with
    | nil => rfl
    | cons c rest =>
      obtain ⟨hnone, hmark⟩ := hrest c rfl
      rw [List.nil_append, readDigits.eq_2 _ _ fun _ _ heq => absurd heq hmark, hnone]
      rfl
  | cons c cs ih =>
    have hc := h c List.mem_cons_self
    rw [List.cons_append, readDigits.eq_2 _ _ fun _ _ heq => absurd heq (ne_mark_of_isDigit hc),
      decimalValue?_of_isDigit hc, ih fun x hx => h x (List.mem_cons_of_mem c hx)]
    rfl

theorem readPlainDigits_digits {cs rest : List Char} (h : IsDigits cs) (hrest : EndsDigits rest) :
    readPlainDigits (cs ++ rest) = (cs.map fun c => c.toNat - 48, rest) := by
  obtain ⟨c, cs, rfl⟩ := List.exists_cons_of_ne_nil h.ne_nil
  have hread := readDigits_digits h.isDigit hrest
  have hmark := ne_mark_of_isDigit (h.isDigit c List.mem_cons_self)
  unfold readPlainDigits
  split
  · rename_i heq
    exact absurd (List.cons_eq_cons.mp heq).1 hmark
  · exact hread

theorem isDigits_padZeros (width n : ℕ) : IsDigits (padZeros width (digitsOf n)) where
  ne_nil := by simp [padZeros, (isDigits_digitsOf n).ne_nil]
  isDigit c hc := by
    rcases List.mem_append.mp hc with hc | hc
    · exact isDigit_of_mem_zeros hc
    · exact (isDigits_digitsOf n).isDigit c hc

theorem digitsValue_padZeros (width n : ℕ) : digitsValue 10 (padZeros width (digitsOf n)) = n := by
  unfold padZeros
  rw [digitsValue_append, digitsValue_zeros, digitsValue_digitsOf, Nat.zero_mul, Nat.zero_add]

/-- **An exponent is read back.** -/
theorem readExponent?_exponentText (width : ℕ) (e : ℤ) :
    readExponent? (exponentText width e) = some e := by
  have hdigits := isDigits_padZeros width e.natAbs
  have hread := @readPlainDigits_digits _ [] hdigits (by simp [EndsDigits])
  rw [List.append_nil] at hread
  have hvalue := ofDigits_digits 10 (padZeros width (digitsOf e.natAbs))
  rw [digitsValue_padZeros] at hvalue
  obtain ⟨c, cs, hcons⟩ := List.exists_cons_of_ne_nil hdigits.ne_nil
  rw [hcons, List.map_cons] at hread hvalue
  have hsign : readSign ((if e < 0 then '-' else '+') :: c :: cs) = (decide (e < 0), c :: cs) := by
    by_cases he : e < 0 <;> simp [he, readSign]
  unfold readExponent? exponentText
  rw [hcons]
  simp only [beq_self_eq_true, Bool.true_or, if_true, hsign, hread, hvalue]
  by_cases he : e < 0
  · simp only [he, decide_true, if_true]
    congr 1
    omega
  · simp only [he, decide_false, Bool.false_eq_true, if_false]
    congr 1
    omega

/-- The exponent at the end of a number, or nothing. -/
structure ReadsExponent (rest : List Char) (k : ℤ) : Prop where
  reads : readExponent? rest = some k
  ends : EndsDigits rest
  noPoint : rest.head? ≠ some '.'

theorem readsExponent_nil : ReadsExponent [] 0 :=
  ⟨rfl, by simp [EndsDigits], by simp⟩

theorem readsExponent_exponentText (width : ℕ) (e : ℤ) :
    ReadsExponent (exponentText width e) e where
  reads := readExponent?_exponentText width e
  ends := by
    simp only [EndsDigits, exponentText, List.head?_cons, Option.mem_some_iff]
    rintro c rfl
    decide +kernel
  noPoint := by simp [exponentText]

/-- **A numeral is read as its digits,** with or without an exponent behind it. -/
theorem readDecimal?_numeral (w : Numeral) {rest : List Char} {k : ℤ} (h : ReadsExponent rest k) :
    readDecimal? (w.chars ++ rest) =
      some ⟨digitsValue 10 (w.whole ++ w.tail), k - w.tail.length⟩ := by
  have hne : ∀ ds : List Char, ds ≠ [] → (ds.map fun c => c.toNat - 48).isEmpty = false := by
    intro ds hds
    simp [hds]
  unfold readDecimal? Numeral.chars Numeral.tail
  cases hpart : w.part with
  | none =>
    rw [readPlainDigits_digits w.whole_digits h.ends]
    simp only
    split
    · exact absurd rfl h.noPoint
    · simp only [hne _ w.whole_digits.ne_nil, Bool.false_and, Bool.false_eq_true, if_false, h.reads,
        Option.map_some, List.append_nil, ofDigits_digits, List.length_nil, Option.getD_none]
  | some ds =>
    have hpoint : EndsDigits ('.' :: (ds ++ rest)) := by
      simp only [EndsDigits, List.head?_cons, Option.mem_some_iff]
      rintro c rfl
      decide +kernel
    simp only
    rw [List.append_assoc, List.cons_append, readPlainDigits_digits w.whole_digits hpoint]
    simp only
    rw [readPlainDigits_digits (w.part_digits ds hpart) h.ends]
    simp only [hne _ w.whole_digits.ne_nil, Bool.false_and, Bool.false_eq_true, if_false, h.reads,
      Option.map_some, ← List.map_append, ofDigits_digits, List.length_map, Option.getD_some]

end ItemCatalog.Number
