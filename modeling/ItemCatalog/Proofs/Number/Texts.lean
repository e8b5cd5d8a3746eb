import ItemCatalog.Proofs.Number.Numerals
import ItemCatalog.Proofs.Number.Shortest

/-! # Number texts: how floating-point numbers are written

A number is written with the digits of its shortest decimal, positionally or with an exponent. Both
ways the text holds a numeral of the right rational, so everything else is said of numerals.

* `readFloat_renderFloat`, `renderFloat_inj`: the text of a number is read as the number, so that
  different numbers have different texts.
* `renderFloat_eq_text_iff`: a rounded numeral is written as it stands exactly if it is tidy,
  neither too small nor too large, and the shortest decimal of its number.
* `Numeral.Short.kept_iff`, `Numeral.Short.ofRational_eq_iff`: of a numeral of at most fifteen
  digits this asks no more than to be tidy, and no other rational of such a numeral has its
  number. -/

namespace ItemCatalog.Number

open ItemCatalog.Text

/-! ### The digits of a number -/

theorem rational_zero :
    (Numeral.withPoint isDigits_zero isDigits_zero).rational = 0 := by
  simp [Numeral.rational, Numeral.withPoint, Numeral.tail, digitsValue_zero_cons]

section Positional

variable {ds : List Char} (h : IsDigits ds) (hhead : ds.head? ≠ some '0')
  (hlast : ds.getLast? ≠ some '0') {lead : ℤ}
include h

include hlast in
/-- Below one there is a zero before the point, and zeros after it. -/
theorem positional_below_one (hneg : lead < 0) :
    ∃ w : Numeral, positional floatFormat ds lead = w.chars ∧ w.Tidy ∧
      w.rational = digitsValue 10 ds * 10 ^ (lead + 1 - ds.length) := by
  have hpart : IsDigits (List.replicate (-lead - 1).toNat '0' ++ ds) := by
    refine ⟨by simp [h.ne_nil], fun c hc => ?_⟩
    rcases List.mem_append.mp hc with hc | hc
    · exact isDigit_of_mem_zeros hc
    · exact h.isDigit c hc
  unfold positional
  rw [if_pos hneg]
  refine ⟨.withPoint isDigits_zero hpart, rfl, ⟨.inl rfl, _, rfl, .inr ?_⟩, ?_⟩
  · rw [List.getLast?_append_of_ne_nil _ h.ne_nil]
    exact hlast
  · rw [Numeral.rational_eq_add]
    have hone : digitsValue 10 ['0'] = 0 := rfl
    simp only [Numeral.withPoint, Numeral.tail, Option.getD_some, hone, digitsValue_append,
      digitsValue_zeros, List.length_append, List.length_replicate, Nat.zero_mul, Nat.cast_zero,
      zero_add]
    congr 2
    push_cast
    omega

include hhead hlast in
/-- More digits than stand before the point stand on both sides of it. -/
theorem positional_with_part (hpos : ¬ lead < 0) (hlt : lead.toNat + 1 < ds.length) :
    ∃ w : Numeral, positional floatFormat ds lead = w.chars ∧ w.Tidy ∧
      w.rational = digitsValue 10 ds * 10 ^ (lead + 1 - ds.length) := by
  have hdrop : ds.drop (lead.toNat + 1) ≠ [] := by
    rw [Ne, List.drop_eq_nil_iff]
    omega
  have hmore : ¬ (ds.drop (lead.toNat + 1)).isEmpty = true := by simpa using hdrop
  have htake : IsDigits (ds.take (lead.toNat + 1)) := by
    refine ⟨?_, fun c hc => h.isDigit c (List.mem_of_mem_take hc)⟩
    simp [h.ne_nil]
  have hpart : IsDigits (ds.drop (lead.toNat + 1)) :=
    ⟨hdrop, fun c hc => h.isDigit c (List.mem_of_mem_drop hc)⟩
  unfold positional
  rw [if_neg hpos]
  refine ⟨.withPoint htake hpart, ?_, ⟨.inr ?_, _, rfl, .inr ?_⟩, ?_⟩
  · simp only
    rw [if_neg hmore, Nat.sub_eq_zero_of_le hlt.le, List.replicate_zero, List.append_nil]
    rfl
  · simp only [Numeral.withPoint]
    rw [List.head?_take, if_neg (by omega)]
    exact hhead
  · rw [List.getLast?_drop, if_neg (by omega)]
    exact hlast
  · unfold Numeral.rational
    simp only [Numeral.withPoint, Numeral.tail, Option.getD_some, List.take_append_drop,
      List.length_drop]
    congr 2
    omega

include hhead in
/-- All digits stand before the point, with zeros up to it. -/
theorem positional_without_part (hpos : ¬ lead < 0) (hge : ds.length ≤ lead.toNat + 1) :
    ∃ w : Numeral, positional floatFormat ds lead = w.chars ∧ w.Tidy ∧
      w.rational = digitsValue 10 ds * 10 ^ (lead + 1 - ds.length) := by
  have hdrop : ds.drop (lead.toNat + 1) = [] := List.drop_eq_nil_iff.mpr hge
  have hwhole : IsDigits (ds ++ List.replicate (lead.toNat + 1 - ds.length) '0') :=
    h.append fun c => isDigit_of_mem_zeros
  unfold positional
  rw [if_neg hpos]
  refine ⟨.withPoint hwhole isDigits_zero, ?_, ⟨.inr ?_, _, rfl, .inl rfl⟩, ?_⟩
  · simp only
    rw [hdrop, List.take_of_length_le hge]
    rfl
  · simp only [Numeral.withPoint]
    rw [List.head?_append_of_ne_nil _ h.ne_nil]
    exact hhead
  · rw [Numeral.rational_eq_add]
    have hone : digitsValue 10 ['0'] = 0 := rfl
    simp only [Numeral.withPoint, Numeral.tail, Option.getD_some, hone, digitsValue_append,
      digitsValue_zeros, List.length_replicate, Nat.cast_zero, zero_mul, add_zero]
    push_cast
    rw [← zpow_natCast]
    congr 2
    omega

include hhead hlast in
/-- **Digits written positionally** are a tidy numeral. -/
theorem positional_numeral (lead : ℤ) :
    ∃ w : Numeral, positional floatFormat ds lead = w.chars ∧ w.Tidy ∧
      w.rational = digitsValue 10 ds * 10 ^ (lead + 1 - ds.length) := by
  by_cases hneg : lead < 0
  · exact positional_below_one h hlast hneg
  · rcases Nat.lt_or_ge (lead.toNat + 1) ds.length with hlt | hge
    · exact positional_with_part h hhead hlast hneg hlt
    · exact positional_without_part h hhead hneg hge

end Positional

/-- Digits written with an exponent are a numeral and the exponent. -/
theorem scientific_numeral {ds : List Char} (h : IsDigits ds) (lead : ℤ) :
    ∃ w : Numeral, scientific floatFormat ds lead = w.chars ++ exponentText 2 lead ∧
      w.rational = digitsValue 10 ds * 10 ^ (1 - (ds.length : ℤ)) := by
  obtain ⟨d, rest, rfl⟩ := List.exists_cons_of_ne_nil h.ne_nil
  have hd : IsDigits [d] := ⟨by simp, fun c hc => h.isDigit c (by simp_all)⟩
  cases rest with
  | nil =>
    refine ⟨⟨[d], none, hd, by simp⟩, rfl, ?_⟩
    simp [Numeral.rational, Numeral.tail]
  | cons d' rest =>
    have hrest : IsDigits (d' :: rest) :=
      ⟨by simp, fun c hc => h.isDigit c (List.mem_cons_of_mem d hc)⟩
    refine ⟨.withPoint hd hrest, rfl, ?_⟩
    have hlength : -((d' :: rest).length : ℤ) = 1 - ((d :: d' :: rest).length : ℤ) := by
      push_cast [List.length_cons]
      ring
    unfold Numeral.rational
    simp only [Numeral.withPoint, Numeral.tail, Option.getD_some, List.singleton_append]
    rw [hlength]

open Binary64

/-- The power of the leading digit says how large a decimal is. -/
theorem positional_range_iff {d : Decimal} (hpos : 0 < d.digits) :
    (-4 ≤ ((digitsOf d.digits).length : ℤ) + d.exponent - 1 ∧
      ((digitsOf d.digits).length : ℤ) + d.exponent - 1 ≤ 15) ↔
    10 ^ (-4 : ℤ) ≤ d.value ∧ d.value < 10 ^ (16 : ℤ) := by
  have hten : (1 : ℚ) ≤ 10 := by norm_num
  have hlength : 0 < (digitsOf d.digits).length :=
    List.length_pos_iff.mpr (isDigits_digitsOf d.digits).ne_nil
  generalize hlead : ((digitsOf d.digits).length : ℤ) + d.exponent - 1 = lead
  have hlow : (10 : ℚ) ^ lead ≤ d.value := by
    have hdigits : (10 : ℚ) ^ (((digitsOf d.digits).length - 1 : ℕ) : ℤ) ≤ d.digits := by
      exact_mod_cast pow_length_digits_le hpos
    calc (10 : ℚ) ^ lead = 10 ^ (((digitsOf d.digits).length - 1 : ℕ) : ℤ) * 10 ^ d.exponent := by
          rw [← zpow_add₀ (by norm_num)]
          congr 1
          omega
      _ ≤ d.value := by
        unfold Decimal.value
        gcongr
  have hhigh : d.value < 10 ^ (lead + 1) := by
    have hdigits : (d.digits : ℚ) < 10 ^ ((digitsOf d.digits).length : ℤ) := by
      exact_mod_cast lt_pow_length_digits d.digits
    calc d.value < 10 ^ ((digitsOf d.digits).length : ℤ) * 10 ^ d.exponent := by
          unfold Decimal.value
          gcongr
      _ = 10 ^ (lead + 1) := by
        rw [← zpow_add₀ (by norm_num)]
        congr 1
        omega
  constructor
  · rintro ⟨hleast, hmost⟩
    exact ⟨(zpow_le_zpow_right₀ hten hleast).trans hlow,
      hhigh.trans_le (zpow_le_zpow_right₀ hten (by omega))⟩
  · rintro ⟨hleast, hmost⟩
    have hone : (1 : ℚ) < 10 := by norm_num
    have hleast' := (zpow_lt_zpow_iff_right₀ hone).mp (hleast.trans_lt hhigh)
    have hmost' := (zpow_lt_zpow_iff_right₀ hone).mp (hlow.trans_lt hmost)
    omega

/-- The digits of a decimal, without the zeros at their end. -/
theorem trimmed_digits {d : Decimal} (hpos : 0 < d.digits) :
    ∃ (ds : List Char) (k : ℕ), dropTrailingZeros (digitsOf d.digits) = ds ∧
      (digitsOf d.digits).length = ds.length + k ∧ IsDigits ds ∧ ds.head? ≠ some '0' ∧
      ds.getLast? ≠ some '0' ∧ (digitsValue 10 ds : ℚ) * 10 ^ (k + d.exponent) = d.value := by
  have hall := isDigits_digitsOf d.digits
  have hvalue := digitsValue_digitsOf d.digits
  have hhead : (digitsOf d.digits).head? ≠ some '0' := by
    rcases noLeadingZero_digitsOf d.digits with hzero | hhead
    · rw [hzero] at hvalue
      exact absurd hvalue hpos.ne
    · exact hhead
  obtain ⟨⟨k, hk⟩, hlast⟩ := dropTrailingZeros_spec (by rwa [hvalue])
  generalize dropTrailingZeros (digitsOf d.digits) = ds at hk hlast
  rw [hk] at hall hvalue hhead
  have hds : IsDigits ds := by
    refine ⟨?_, fun c hc => hall.isDigit c (List.mem_append_left _ hc)⟩
    rintro rfl
    simp at hvalue
    omega
  rw [List.head?_append_of_ne_nil _ hds.ne_nil] at hhead
  refine ⟨ds, k, rfl, by rw [hk, List.length_append, List.length_replicate], hds, hhead, hlast, ?_⟩
  -- The zeros that are dropped are in the power of ten.
  unfold Decimal.value
  rw [← hvalue, digitsValue_append, digitsValue_zeros, List.length_replicate]
  push_cast
  rw [add_zero, zpow_add₀ (by norm_num), zpow_natCast, mul_assoc]

section Number
variable {m : ℕ} {e : ℤ} (h : Canonical m e) (hmax : e ≤ maxExponent) (hm : 0 < m)
include h hmax hm

theorem shortest_digits_pos : 0 < (shortest m e).digits := by
  have hread := readsTo_shortest h hmax hm
  unfold Decimal.value at hread
  exact hread.digits_pos hm

/-- **How a positive number is written:** positionally as a tidy numeral if it is neither too small
nor too large, and otherwise with an exponent. -/
theorem renderMagnitude_cases :
    (∃ w : Numeral, renderMagnitude floatFormat m e = w.chars ∧ w.Tidy ∧
      w.rational = (shortest m e).value ∧
      10 ^ (-4 : ℤ) ≤ (shortest m e).value ∧ (shortest m e).value < 10 ^ (16 : ℤ)) ∨
    ∃ (w : Numeral) (k : ℤ), renderMagnitude floatFormat m e = w.chars ++ exponentText 2 k ∧
      w.rational * 10 ^ k = (shortest m e).value ∧
      ¬ (10 ^ (-4 : ℤ) ≤ (shortest m e).value ∧ (shortest m e).value < 10 ^ (16 : ℤ)) := by
  have hpos := shortest_digits_pos h hmax hm
  unfold renderMagnitude
  rw [if_neg hm.ne']
  simp only
  generalize shortest m e = d at hpos ⊢
  have hrange := positional_range_iff hpos
  obtain ⟨ds, k, hds, hlength, hdigits, hhead, hlast, hvalue⟩ := trimmed_digits hpos
  rw [hlength] at hrange ⊢
  rw [hds]
  have hscale : ∀ p : ℤ, p = k + d.exponent → (digitsValue 10 ds : ℚ) * 10 ^ p = d.value := by
    rintro p rfl
    exact hvalue
  by_cases hlead : -4 ≤ ((ds.length + k : ℕ) : ℤ) + d.exponent - 1 ∧
      ((ds.length + k : ℕ) : ℤ) + d.exponent - 1 ≤ 15
  · left
    obtain ⟨w, hw, htidy, hrational⟩ := positional_numeral hdigits hhead hlast
      (((ds.length + k : ℕ) : ℤ) + d.exponent - 1)
    refine ⟨w, ?_, htidy, ?_, hrange.mp hlead⟩
    · rw [← hw, if_pos]
      simpa [floatFormat] using hlead
    · rw [hrational]
      refine hscale _ ?_
      push_cast
      ring
  · right
    obtain ⟨w, hw, hrational⟩ :=
      scientific_numeral hdigits (((ds.length + k : ℕ) : ℤ) + d.exponent - 1)
    refine ⟨w, ((ds.length + k : ℕ) : ℤ) + d.exponent - 1, ?_, ?_, fun h => hlead (hrange.mpr h)⟩
    · rw [← hw, if_neg]
      simpa [floatFormat] using hlead
    · rw [hrational, mul_assoc, ← zpow_add₀ (by norm_num)]
      refine hscale _ ?_
      push_cast
      ring

end Number

/-! ### Texts that are read back -/

theorem isBlank_of_mem_chars (w : Numeral) {c : Char} (hc : c ∈ w.chars) : isBlank c = false := by
  rcases w.mem_chars hc with hdigit | rfl
  · exact isBlank_of_isDigit hdigit
  · decide

theorem isBlank_of_mem_exponentText {width : ℕ} {k : ℤ} {c : Char}
    (hc : c ∈ exponentText width k) : isBlank c = false := by
  unfold exponentText at hc
  rcases List.mem_cons.mp hc with rfl | hc
  · decide
  · rcases List.mem_cons.mp hc with rfl | hc
    · split <;> decide
    · exact isBlank_of_isDigit ((isDigits_padZeros _ _).isDigit c hc)

theorem Numeral.exists_head (w : Numeral) (rest : List Char) :
    ∃ c cs, w.chars ++ rest = c :: cs ∧ c.isDigit = true := by
  obtain ⟨c, cs, hcs⟩ := List.exists_cons_of_ne_nil w.whole_digits.ne_nil
  have hc := w.whole_digits.isDigit c (by simp [hcs])
  unfold chars
  rw [hcs]
  cases w.part with
  | none => exact ⟨c, cs ++ rest, rfl, hc⟩
  | some ds => exact ⟨c, cs ++ '.' :: ds ++ rest, rfl, hc⟩

/-- A text that starts with a digit is no word, and is read as a decimal. -/
theorem readFloat_of_readDecimal? (s : Bool) {c : Char} {cs : List Char} {d : Decimal}
    (hc : c.isDigit = true) (hblank : ∀ x ∈ c :: cs, isBlank x = false)
    (hd : readDecimal? (c :: cs) = some d) :
    readFloat (String.ofList ((if s then ['-'] else []) ++ c :: cs)) =
      .ok (ofDecimal s d.digits d.exponent) := by
  have hbounds := (isDigit_iff c).mp hc
  have hstrip : stripChars ((if s then ['-'] else []) ++ c :: cs) =
      (if s then ['-'] else []) ++ c :: cs := by
    refine stripChars_of_not_blank fun x hx => ?_
    rcases List.mem_append.mp hx with hx | hx
    · cases s with
      | false => simp at hx
      | true =>
        obtain rfl : x = '-' := by simpa using hx
        decide
    · exact hblank x hx
  have hsign : readSign ((if s then ['-'] else []) ++ c :: cs) = (s, c :: cs) := by
    cases s with
    | true => rfl
    | false =>
      simp only [Bool.false_eq_true, if_false, List.nil_append]
      unfold readSign
      split
      · simp_all
      · simp_all
      · rfl
  have hword : ∀ w : String, w.toList.head?.any Char.isDigit = false →
      (String.ofList ((c :: cs).map Char.toLower) == w) = false := by
    intro w hw
    rw [beq_eq_false_iff_ne]
    rintro rfl
    simp [toLower_of_isDigit hc, hc] at hw
  unfold readFloat
  rw [String.toList_ofList, hstrip, hsign]
  simp only
  rw [hword "inf" (by decide), hword "infinity" (by decide), hword "nan" (by decide), hd]
  rfl

namespace Binary64

/-- The parts of a finite number are those of its value. -/
def IsCanonical : Binary64 → Prop
  | .finite _ m e => Canonical m e ∧ e ≤ maxExponent
  | _ => True

theorem ofRational_isCanonical {q : ℚ} (hq : 0 ≤ q) : (ofRational q).IsCanonical := by
  rcases hq.eq_or_lt with rfl | hq
  · exact ⟨.zero, by decide⟩
  · rcases ofRational_cases hq with ⟨m, e, h⟩ | h
    · rw [h]
      obtain ⟨hcanonical, hmax, -⟩ := (ofRational_eq_finite_iff hq).mp h
      exact ⟨hcanonical, hmax⟩
    · rw [h]
      trivial

theorem ofRatio_neg (num den : ℕ) : ofRatio true num den = (ofRatio false num den).neg := by
  unfold ofRatio
  split
  · rfl
  · unfold normalize
    simp only
    split <;> split <;> rfl

/-- Rounding is the same on both sides of zero. -/
theorem ofDecimal_neg (digits : ℕ) (exponent : ℤ) :
    ofDecimal true digits exponent = (ofDecimal false digits exponent).neg := by
  unfold ofDecimal
  split
  · rfl
  · simp only
    split
    · rfl
    · split
      · rfl
      · exact ofRatio_neg _ _

theorem ofDecimal_eq_finite {s : Bool} {digits m : ℕ} {exponent e : ℤ}
    (h : ofDecimal false digits exponent = .finite false m e) :
    ofDecimal s digits exponent = .finite s m e := by
  cases s with
  | false => exact h
  | true =>
    rw [ofDecimal_neg, h]
    rfl

end Binary64

/-- **The text of a number is read as the number.** -/
theorem readFloat_renderFloat {x : Binary64} (h : x.IsCanonical) :
    readFloat (renderFloat x) = .ok x := by
  cases x with
  | nan => decide +kernel
  | infinite s => cases s <;> decide +kernel
  | finite s m e =>
    obtain ⟨hcanonical, hmax⟩ := h
    -- In all cases the magnitude starts with a digit and is read as a decimal of the number.
    obtain ⟨w, rest, k, hrest, hblank, htext, hvalue⟩ : ∃ (w : Numeral) (rest : List Char) (k : ℤ),
        ReadsExponent rest k ∧ (∀ c ∈ rest, isBlank c = false) ∧
        renderMagnitude floatFormat m e = w.chars ++ rest ∧
        ofRational (w.rational * 10 ^ k) = .finite false m e := by
      rcases Nat.eq_zero_or_pos m with rfl | hm
      · obtain rfl := hcanonical.full.resolve_right (by norm_num)
        refine ⟨.withPoint isDigits_zero isDigits_zero, [], 0, readsExponent_nil, by simp, rfl, ?_⟩
        rw [rational_zero, zero_mul]
        rfl
      · have hread := readsTo_shortest hcanonical hmax hm
        rcases renderMagnitude_cases hcanonical hmax hm with
          ⟨w, hw, -, hrational, -⟩ | ⟨w, k, hw, hrational, -⟩
        · refine ⟨w, [], 0, readsExponent_nil, by simp, by rw [hw, List.append_nil], ?_⟩
          rw [hrational, zpow_zero, mul_one]
          exact hread
        · refine ⟨w, exponentText 2 k, k, readsExponent_exponentText 2 k,
            fun c => isBlank_of_mem_exponentText, hw, ?_⟩
          rw [hrational]
          exact hread
    have hdecimal := readDecimal?_numeral w hrest
    obtain ⟨c, cs, hcons, hc⟩ := w.exists_head rest
    have hblanks : ∀ x ∈ c :: cs, isBlank x = false := by
      intro x hx
      rw [← hcons] at hx
      rcases List.mem_append.mp hx with hx | hx
      · exact isBlank_of_mem_chars w hx
      · exact hblank x hx
    rw [hcons] at hdecimal htext
    unfold renderFloat
    simp only
    rw [htext, readFloat_of_readDecimal? s hc hblanks hdecimal]
    refine congrArg _ (ofDecimal_eq_finite ?_)
    rw [ofDecimal_eq, ← hvalue]
    congr 1
    unfold Numeral.rational
    simp only
    rw [mul_assoc, ← zpow_add₀ (by norm_num)]
    congr 2
    ring

/-- **Different numbers have different texts.** -/
theorem renderFloat_inj {x y : Binary64} (hx : x.IsCanonical) (hy : y.IsCanonical)
    (h : renderFloat x = renderFloat y) : x = y := by
  have hread := readFloat_renderFloat hx
  rw [h, readFloat_renderFloat hy] at hread
  exact (Except.ok.inj hread).symm

/-- The text of a floating-point number is more than digits. -/
theorem exists_mark_renderFloat {x : Binary64} (h : x.IsCanonical) :
    ∃ c ∈ (renderFloat x).toList, c.isDigit = false := by
  cases x with
  | nan => exact ⟨'n', by decide, by decide⟩
  | infinite s =>
    refine ⟨'i', ?_, by decide⟩
    cases s <;> decide
  | finite s m e =>
    obtain ⟨hcanonical, hmax⟩ := h
    obtain ⟨c, hmem, hc⟩ : ∃ c ∈ renderMagnitude floatFormat m e, c.isDigit = false := by
      rcases Nat.eq_zero_or_pos m with rfl | hm
      · exact ⟨'.', by simp [renderMagnitude], by decide⟩
      · rcases renderMagnitude_cases hcanonical hmax hm with
          ⟨w, hw, ⟨-, ds, hpart, -⟩, -⟩ | ⟨w, k, hw, -⟩
        · refine ⟨'.', ?_, by decide⟩
          rw [hw]
          simp [Numeral.chars, hpart]
        · refine ⟨'e', ?_, by decide⟩
          rw [hw]
          simp [exponentText]
    refine ⟨c, ?_, hc⟩
    unfold renderFloat
    rw [String.toList_ofList]
    exact List.mem_append_right _ hmem

/-! ### Numerals that are written as they stand -/

/-- A numeral that is written out: nothing is rounded away that has to be written. -/
structure Numeral.Kept (w : Numeral) : Prop where
  tidy : w.Tidy
  shortest : w.rational = 0 ∨
    10 ^ (-4 : ℤ) ≤ w.rational ∧ w.rational < 10 ^ (16 : ℤ) ∧ IsShortest w.rational

namespace Binary64

theorem ofRational_of_moderate {q : ℚ} (hq : 0 < q) (hlt : q < 10 ^ (16 : ℤ)) :
    ∃ m e, ofRational q = .finite false m e := by
  rcases ofRational_cases hq with h | h
  · exact h
  · -- An infinity has an exponent that is out of range.
    have hlog := (Int.lt_zpow_iff_log_lt one_lt_two hq).mp
      (show q < ((2 : ℕ) : ℚ) ^ (54 : ℤ) from hlt.trans (by norm_num))
    rw [ofRational_eq_normalize hq] at h
    unfold normalize at h
    simp only at h
    rw [if_neg] at h
    · cases h
    · unfold exponentAt minExponent maxExponent
      split <;> omega

/-- Numbers that are not small have all their bits. -/
theorem full_of_moderate {q : ℚ} {m : ℕ} {e : ℤ} (hq : 10 ^ (-4 : ℤ) ≤ q)
    (h : ofRational q = .finite false m e) : 2 ^ 52 ≤ m := by
  have hpos : 0 < q := lt_of_lt_of_le (by positivity) hq
  obtain ⟨hcanonical, -, hvalue⟩ := (ofRational_eq_finite_iff hpos).mp h
  rcases hcanonical.full with rfl | hfull
  · -- At the least exponent all numbers are tiny.
    exfalso
    have hclose := (abs_le.mp (abs_sub_le_of_rounded hpos hcanonical hvalue)).2
    have hbelow : (m : ℚ) < 2 ^ 53 := by exact_mod_cast hcanonical.below
    have hmin : (2 : ℚ) ^ minExponent ≤ 2 ^ (-100 : ℤ) :=
      zpow_le_zpow_right₀ one_le_two (by decide)
    have htiny : q < 10 ^ (-4 : ℤ) :=
      calc q ≤ m * 2 ^ minExponent + 2 ^ minExponent / 2 := sub_le_iff_le_add'.mp hclose
        _ ≤ 2 ^ 53 * 2 ^ (-100 : ℤ) + 2 ^ (-100 : ℤ) / 2 := by gcongr
        _ < 10 ^ (-4 : ℤ) := by norm_num
    exact htiny.not_ge hq
  · exact hfull

end Binary64

section Writing
variable {w : Numeral}

/-- The numeral that zero is written as. -/
theorem renderFloat_zero : renderFloat (Binary64.zero false) =
    (Numeral.withPoint isDigits_zero isDigits_zero).text := by
  decide +kernel

theorem tidy_zero : (Numeral.withPoint isDigits_zero isDigits_zero).Tidy :=
  ⟨.inl rfl, _, rfl, .inl rfl⟩

/-- What is written as it stands is the shortest decimal of its number. -/
theorem kept_of_renderFloat (hw : 0 < w.rational)
    (h : renderFloat (ofRational w.rational) = w.text) : w.Kept := by
  rcases ofRational_cases hw with ⟨m, e, hround⟩ | hround
  · obtain ⟨hcanonical, hmax, -⟩ := (ofRational_eq_finite_iff hw).mp hround
    rw [hround] at h
    have hchars : renderMagnitude floatFormat m e = w.chars := String.ofList_injective h
    rcases Nat.eq_zero_or_pos m with rfl | hm
    · -- The rational is too small to be written at all.
      have hsame : Numeral.withPoint isDigits_zero isDigits_zero = w := Numeral.chars_inj hchars
      rw [← hsame, rational_zero] at hw
      exact absurd hw (lt_irrefl 0)
    · have hread := readsTo_shortest hcanonical hmax hm
      rcases renderMagnitude_cases hcanonical hmax hm with
        ⟨w', hw', htidy', hrational, hrange⟩ | ⟨w', k, hw', -⟩
      · obtain rfl : w' = w := Numeral.chars_inj (hw'.symm.trans hchars)
        have hfull := full_of_moderate hrange.1 hread
        have hshort := isShortest_shortest hcanonical hmax hfull
        rw [← hrational] at hrange hshort
        exact ⟨htidy', .inr ⟨hrange.1, hrange.2, hshort⟩⟩
      · -- A numeral has no exponent.
        have hmem : 'e' ∈ w.chars := by
          rw [← hchars, hw']
          simp [exponentText]
        exact absurd hmem (w.notMem_chars (by decide) (by decide))
  · rw [hround] at h
    have hchars : "inf".toList = w.chars := String.ofList_injective h
    have hmem : 'i' ∈ w.chars := by
      rw [← hchars]
      decide
    exact absurd hmem (w.notMem_chars (by decide) (by decide))

/-- The shortest decimal of a number is what is written. -/
theorem renderFloat_of_kept (hw : 0 < w.rational) (h : w.Kept) :
    renderFloat (ofRational w.rational) = w.text := by
  obtain ⟨hleast, hmost, hshort⟩ := h.shortest.resolve_left hw.ne'
  obtain ⟨m, e, hround⟩ := ofRational_of_moderate hw hmost
  obtain ⟨hcanonical, hmax, -⟩ := (ofRational_eq_finite_iff hw).mp hround
  have hfull := full_of_moderate hleast hround
  have hm : 0 < m := lt_of_lt_of_le (by norm_num) hfull
  have hread := readsTo_shortest hcanonical hmax hm
  have hpos := shortest_pos hcanonical hmax hm
  -- The numeral and the digits of the number are both its shortest decimal.
  have hsame : (shortest m e).value = w.rational :=
    IsShortest.unique hcanonical hmax hm (isShortest_shortest hcanonical hmax hfull) hshort
      ⟨_, rfl⟩ hpos hw hread hround
  rw [hround]
  rcases renderMagnitude_cases hcanonical hmax hm with
    ⟨w', hw', htidy', hrational, -⟩ | ⟨w', k, -, -, hrange⟩
  · obtain rfl : w' = w := htidy'.eq_of_rational h.tidy (hrational.trans hsame)
    unfold renderFloat Numeral.text
    simp only [Bool.false_eq_true, if_false, List.nil_append, hw']
  · rw [hsame] at hrange
    exact absurd ⟨hleast, hmost⟩ hrange

end Writing

/-- **A rounded numeral is written as it stands** exactly if it is tidy, neither too small nor too
large, and the shortest decimal of its number. -/
theorem renderFloat_eq_text_iff (w : Numeral) :
    renderFloat (ofRational w.rational) = w.text ↔ w.Kept := by
  rcases w.rational_nonneg.eq_or_lt with hw | hw
  · rw [← hw, ofRational_zero, renderFloat_zero]
    constructor
    · intro h
      rw [← Numeral.text_inj h]
      exact ⟨tidy_zero, .inl rational_zero⟩
    · intro h
      rw [tidy_zero.eq_of_rational h.tidy (rational_zero.trans hw)]
  · exact ⟨kept_of_renderFloat hw, renderFloat_of_kept hw⟩

/-! ### Numerals of few digits -/

/-- A numeral with a point, of at most fifteen digits behind zeros in front, and not tiny. -/
structure Numeral.Short (w : Numeral) : Prop where
  point : w.part.isSome = true
  few : digitsValue 10 (w.whole ++ w.tail) < 10 ^ 15
  least : 10 ^ (-4 : ℤ) ≤ w.rational

namespace Numeral.Short
variable {w w' : Numeral}

theorem pos (h : w.Short) : 0 < w.rational :=
  lt_of_lt_of_le (by positivity) h.least

theorem digits_pos (h : w.Short) : 0 < digitsValue 10 (w.whole ++ w.tail) := by
  have hpos := h.pos
  unfold rational at hpos
  exact_mod_cast pos_of_mul_pos_left hpos (by positivity)

theorem lt_most (h : w.Short) : w.rational < 10 ^ (16 : ℤ) := by
  have hfew : (digitsValue 10 (w.whole ++ w.tail) : ℚ) < 10 ^ 15 := by exact_mod_cast h.few
  have hone : (10 : ℚ) ^ (-(w.tail.length : ℤ)) ≤ 1 :=
    zpow_le_one_of_nonpos₀ (by norm_num) (by omega)
  unfold rational
  calc (digitsValue 10 (w.whole ++ w.tail) : ℚ) * 10 ^ (-(w.tail.length : ℤ))
      ≤ digitsValue 10 (w.whole ++ w.tail) * 1 := by gcongr
    _ < 10 ^ (16 : ℤ) := by
      rw [mul_one]
      exact hfew.trans (by norm_num)

/-- The number that a short numeral is rounded to has all its bits. -/
theorem exists_full (h : w.Short) : ∃ m e, ofRational w.rational = .finite false m e ∧
    Canonical m e ∧ e ≤ maxExponent ∧ 2 ^ 52 ≤ m := by
  obtain ⟨m, e, hround⟩ := ofRational_of_moderate h.pos h.lt_most
  obtain ⟨hcanonical, hmax, -⟩ := (ofRational_eq_finite_iff h.pos).mp hround
  exact ⟨m, e, hround, hcanonical, hmax, full_of_moderate h.least hround⟩

/-- **A short numeral is written out** if it has no needless zeros. -/
theorem kept_iff (h : w.Short) : w.Kept ↔ w.Tidy := by
  refine ⟨fun hkept => hkept.tidy, fun htidy => ⟨htidy, .inr ⟨h.least, h.lt_most, ?_⟩⟩⟩
  obtain ⟨m, e, hround, hcanonical, hmax, hfull⟩ := h.exists_full
  exact isShortest_of_fewDigits hcanonical hmax hfull h.digits_pos h.few hround

/-- **Short numerals of different rationals** are rounded to different numbers. -/
theorem ofRational_eq_iff (h : w.Short) (h' : w'.Short) :
    ofRational w.rational = ofRational w'.rational ↔ w.rational = w'.rational := by
  refine ⟨fun heq => ?_, fun heq => by rw [heq]⟩
  obtain ⟨m, e, hround, hcanonical, hmax, hfull⟩ := h.exists_full
  exact eq_of_fewDigits hcanonical hmax hfull h.digits_pos h'.digits_pos h.few h'.few hround
    (heq.symm.trans hround)

end Numeral.Short

end ItemCatalog.Number
