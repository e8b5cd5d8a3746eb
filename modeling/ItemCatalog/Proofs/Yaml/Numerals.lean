import ItemCatalog.Proofs.Number.Texts
import ItemCatalog.Yaml.Typed

/-! # Numerals as plain texts

A plain text that is a numeral gets its type from how it is written: with a point it is a
floating-point number, without one an integer, in base ten or, behind a zero, in base eight; digits
behind a zero that are not all below eight are left as a text. `scalarOf` says so, and reading the
text comes to nothing else (`typed_numeral`). The text of the value is the numeral only if it is
left as it is written (`display_scalarOf_eq_iff`), but different values have different texts
(`OfNumeral.display_inj`). -/

namespace ItemCatalog.Yaml

open Text Number

/-- A digit of base eight. -/
def IsOctal (c : Char) : Prop :=
  c.toNat < 56

instance (c : Char) : Decidable (IsOctal c) :=
  inferInstanceAs (Decidable (_ < _))

/-- **The value of a numeral** that stands as a plain text. -/
def scalarOf (w : Numeral) : Scalar :=
  if w.part.isSome then .float (Binary64.ofRational w.rational)
  else if NoLeadingZero w.whole then .int (digitsValue 10 w.whole)
  else if w.whole.all (IsOctal ·) then .int (digitsValue 8 w.whole)
  else .text w.text

/-! ### Tags -/

section Tags
variable (w : Numeral)

theorem exists_cons_chars : ∃ c cs, w.chars = c :: cs ∧ c.isDigit = true := by
  have h := w.exists_head []
  rwa [List.append_nil] at h

/-- A text with another character is no numeral. -/
theorem beq_chars_of_mem {cs : List Char} {c : Char} (hc : c ∈ cs) (hdigit : c.isDigit = false)
    (hpoint : c ≠ '.') : (w.chars == cs) = false := by
  rw [beq_eq_false_iff_ne]
  intro h
  exact w.notMem_chars hdigit hpoint (h ▸ hc)

theorem dropLineEnd_chars : dropLineEnd w.chars = w.chars := by
  unfold dropLineEnd
  rw [if_neg]
  intro hlast
  rw [beq_iff_eq] at hlast
  exact w.notMem_chars (by decide) (by decide) (List.mem_of_getLast? hlast)

theorem dropSign_chars : dropSign w.chars = w.chars := by
  obtain ⟨c, cs, hcs, hc⟩ := exists_cons_chars w
  rw [hcs]
  unfold dropSign
  split
  · simp_all
  · simp_all
  · rfl

/-- The words that have a type of their own start with a letter. -/
theorem isWordForm_chars {word : String}
    (hword : word.toList.head?.all (fun c => !c.isDigit && !c.toUpper.isDigit) = true)
    (hne : word.toList ≠ []) : isWordForm word w.chars = false := by
  obtain ⟨c, cs, hcs, hc⟩ := exists_cons_chars w
  obtain ⟨x, xs, hx⟩ := List.exists_cons_of_ne_nil hne
  rw [hx] at hword
  have hlower : c ≠ x := by
    rintro rfl
    simp [hc] at hword
  have hupper : c ≠ x.toUpper := by
    rintro rfl
    simp [hc] at hword
  unfold isWordForm
  rw [hcs, hx]
  simp [hlower, hupper]

theorem isTruthWord_chars : isTruthWord w.chars = false := by
  unfold isTruthWord truthWords
  simp only [List.any_cons, List.any_nil, Bool.or_false]
  rw [isWordForm_chars w (by decide) (by decide), isWordForm_chars w (by decide) (by decide),
    isWordForm_chars w (by decide) (by decide), isWordForm_chars w (by decide) (by decide),
    isWordForm_chars w (by decide) (by decide), isWordForm_chars w (by decide) (by decide)]
  rfl

theorem isDigitOrMark_of_isDigit {c : Char} (h : c.isDigit = true) : isDigitOrMark c = true := by
  unfold isDigitOrMark
  rw [h]
  rfl

theorem isDigits_of_isDigits {cs : List Char} (h : IsDigits cs) : isDigits cs = true := by
  obtain ⟨c, cs, rfl⟩ := List.exists_cons_of_ne_nil h.ne_nil
  unfold isDigits
  rw [Bool.and_eq_true, List.all_eq_true]
  exact ⟨h.isDigit c List.mem_cons_self,
    fun x hx => isDigitOrMark_of_isDigit (h.isDigit x (List.mem_cons_of_mem c hx))⟩

/-- Exactly the numerals with a point are floating-point numbers. -/
theorem isFloat_chars : isFloat w.chars = w.part.isSome := by
  have hmarks : ∀ c ∈ w.whole, isDigitOrMark c = true :=
    fun c hc => isDigitOrMark_of_isDigit (w.whole_digits.isDigit c hc)
  unfold isFloat
  rw [dropSign_chars]
  unfold Numeral.chars
  cases hpart : w.part with
  | none =>
    have hrest : w.whole.dropWhile isDigitOrMark = [] := List.dropWhile_eq_nil_iff.mpr hmarks
    simp [hrest]
  | some ds =>
    have hds : ds.dropWhile isDigitOrMark = [] := List.dropWhile_eq_nil_iff.mpr
      fun c hc => isDigitOrMark_of_isDigit ((w.part_digits ds hpart).isDigit c hc)
    simp only [List.takeWhile_append_of_pos hmarks, List.dropWhile_append_of_pos hmarks,
      List.takeWhile_cons_of_neg (show ¬ isDigitOrMark '.' = true by decide),
      List.dropWhile_cons_of_neg (show ¬ isDigitOrMark '.' = true by decide), List.append_nil,
      isDigits_of_isDigits w.whole_digits, hds]
    rfl

/-- Among digits the form of base eight takes those below eight. -/
theorem octalForm_of_isDigit {d : Char} (h : d.isDigit = true) :
    (('0' ≤ d && d ≤ '7') || d == '_') = decide (IsOctal d) := by
  have hbounds := (isDigit_iff d).mp h
  have hlow : '0' ≤ d := hbounds.1
  have hhigh : d ≤ '7' ↔ IsOctal d := by
    change d.toNat ≤ 55 ↔ d.toNat < 56
    omega
  have hmark : (d == '_') = false := beq_false_of_ne (ne_mark_of_isDigit h)
  simp only [hlow, hhigh, hmark, decide_true, Bool.true_and, Bool.or_false]

/-- A numeral without a point is an integer if it has no zero in front, or if all its digits are
below eight. -/
theorem isInteger_chars (hpart : w.part = none) :
    isInteger w.chars = (decide (NoLeadingZero w.whole) || w.whole.all (IsOctal ·)) := by
  have hchars := Numeral.chars_of_none hpart
  have hsign := dropSign_chars w
  have hmarks : ∀ c ∈ w.whole, isDigitOrMark c = true :=
    fun c hc => isDigitOrMark_of_isDigit (w.whole_digits.isDigit c hc)
  have hdigits := isDigits_of_isDigits w.whole_digits
  have hdigit := w.whole_digits.isDigit
  rw [hchars] at hsign
  unfold isInteger
  rw [hchars, hsign]
  generalize w.whole = cs at hmarks hdigit hdigits ⊢
  split
  · rfl
  · exact absurd (hdigit 'b' (by simp)) (by decide)
  · exact absurd (hdigit 'x' (by simp)) (by decide)
  · rename_i ds hne _ _
    have hzero := not_noLeadingZero_cons fun h => hne (h ▸ rfl)
    have hall : (ds.all fun d => ('0' ≤ d && d ≤ '7') || d == '_') = ds.all (IsOctal ·) := by
      rw [Bool.eq_iff_iff, List.all_eq_true, List.all_eq_true]
      refine forall₂_congr fun d hd => ?_
      rw [octalForm_of_isDigit (hdigit d (List.mem_cons_of_mem _ hd))]
    rw [hall, decide_eq_false hzero, List.all_cons]
    rfl
  · rename_i hne
    have hzero := noLeadingZero_of_ne_cons hne
    have htake : cs.takeWhile isDigitOrMark = cs := List.takeWhile_eq_self_iff.mpr hmarks
    have hdrop : cs.dropWhile isDigitOrMark = [] := List.dropWhile_eq_nil_iff.mpr hmarks
    simp only [htake, hdrop, hdigits, decide_eq_true hzero]
    rfl

theorem isNullForm_chars : isNullForm w.chars = false := by
  obtain ⟨c, cs, hcs, -⟩ := exists_cons_chars w
  have hword : isWordForm "null" w.chars = false := isWordForm_chars w (by decide) (by decide)
  have htilde : (w.chars == ['~']) = false :=
    beq_chars_of_mem w List.mem_cons_self (by decide) (by decide)
  unfold isNullForm
  rw [hword, htilde, hcs]
  rfl

/-- A date has a sign between its parts. -/
theorem isTimestamp_chars : isTimestamp w.chars = false := by
  have hnone : readStamp w.chars = none := by
    unfold readStamp
    cases hyear : someDigits 4 4 w.chars with
    | none => rfl
    | some r =>
      obtain ⟨year, cs⟩ := r
      have hmem : ∀ c ∈ cs, c ∈ w.chars := by
        unfold someDigits at hyear
        simp only at hyear
        split at hyear
        · cases hyear
        · cases hyear
          exact fun c hc => List.mem_of_mem_drop hc
      have hafter : afterChar '-' cs = none := by
        unfold afterChar
        split
        · rename_i c rest
          split_ifs with hc
          · exact absurd (hmem c List.mem_cons_self) (hc ▸ w.notMem_chars (by decide) (by decide))
          · rfl
        · rfl
      show (afterChar '-' cs).bind _ = none
      rw [hafter]
      rfl
  unfold isTimestamp
  rw [hnone]

/-- **The type of a numeral** that stands as a plain text. -/
theorem ofPlain_text : Tag.ofPlain w.text =
    if w.part.isSome then .float
    else if decide (NoLeadingZero w.whole) || w.whole.all (IsOctal ·) then .int
    else .text := by
  obtain ⟨c, cs, hcs, -⟩ := exists_cons_chars w
  have hmark : ∀ {c : Char} (cs : List Char), c.isDigit = false → c ≠ '.' →
      (w.chars == c :: cs) = false := fun cs => beq_chars_of_mem w List.mem_cons_self
  unfold Tag.ofPlain
  simp only [Numeral.text, String.toList_ofList, dropLineEnd_chars, isTruthWord_chars,
    isFloat_chars, isNullForm_chars, isTimestamp_chars,
    @hmark '<' _ (by decide) (by decide), @hmark '=' _ (by decide) (by decide),
    @hmark '!' _ (by decide) (by decide), @hmark '&' _ (by decide) (by decide),
    @hmark '*' _ (by decide) (by decide)]
  cases hpart : w.part with
  | some ds => simp [hcs]
  | none => simp [hcs, ← isInteger_chars w hpart]

end Tags

/-! ### Values -/

section Values
variable (w : Numeral)

theorem dropMarks_chars : dropMarks w.chars = w.chars := by
  unfold dropMarks
  rw [List.filter_eq_self]
  intro c hc
  rw [bne_iff_ne]
  rintro rfl
  exact w.notMem_chars (by decide) (by decide) hc

theorem signOf_chars : signOf w.chars = .ok (false, w.chars) := by
  obtain ⟨c, cs, hcs, hc⟩ := exists_cons_chars w
  rw [hcs]
  unfold signOf
  split
  · simp_all
  · simp_all
  · simp_all
  · rfl

theorem contains_colon_chars : w.chars.contains ':' = false := by
  rw [← Bool.not_eq_true, List.contains_iff_mem]
  exact w.notMem_chars (by decide) (by decide)

theorem lower_text : lower w.text = w.text := by
  have hsame : ∀ c ∈ w.chars, c.toNat < 0x80 ∧ c.toLower = c := by
    intro c hc
    rcases w.mem_chars hc with h | rfl
    · have hbounds := (isDigit_iff c).mp h
      exact ⟨by omega, toLower_of_isDigit h⟩
    · exact ⟨by decide, by decide⟩
  unfold Numeral.text
  rw [lower_of_ascii fun c hc => (hsame c hc).1, List.map_congr_left fun c hc => (hsame c hc).2,
    List.map_id']

/-- A numeral is rounded to the nearest floating-point number. -/
theorem readFloat_text : readFloat w.text = .ok (Binary64.ofRational w.rational) := by
  obtain ⟨c, cs, hcs, hc⟩ := exists_cons_chars w
  have hdecimal := readDecimal?_numeral w readsExponent_nil
  have hblank : ∀ x ∈ w.chars, isBlank x = false := fun x => isBlank_of_mem_chars w
  rw [List.append_nil, hcs] at hdecimal
  rw [hcs] at hblank
  have hread := readFloat_of_readDecimal? false hc hblank hdecimal
  unfold Numeral.text
  rw [hcs]
  refine hread.trans (congrArg Except.ok ?_)
  rw [Binary64.ofDecimal_eq]
  unfold Numeral.rational
  rw [zero_sub]

theorem floatOf_text : floatOf w.text = .ok (Binary64.ofRational w.rational) := by
  have hword : ∀ word : String, 'n' ∈ word.toList → (w.chars == word.toList) = false :=
    fun word h => beq_chars_of_mem w h (by decide) (by decide)
  have htext : String.ofList (dropMarks w.text.toList) = w.text := by
    unfold Numeral.text
    rw [String.toList_ofList, dropMarks_chars]
  have hfloat : floatIn w.chars = .ok (Binary64.ofRational w.rational) :=
    congrArg (Except.mapError Fault.number) (readFloat_text w)
  unfold floatOf
  rw [htext, lower_text]
  unfold Numeral.text
  rw [String.toList_ofList, signOf_chars]
  simp only [bind, Except.bind, hword ".inf" (by decide), hword ".nan" (by decide),
    contains_colon_chars, Bool.false_eq_true, if_false, hfloat]
  rfl

/-- A whole number is read in the base of its form, unless it has too many digits. -/
theorem magnitudeOf_digits {cs : List Char} (h : IsDigits cs) {n : Int}
    (hform : NoLeadingZero cs ∨ cs.all (IsOctal ·) = true) (hn : magnitudeOf cs = .ok n) :
    n = if NoLeadingZero cs then (digitsValue 10 cs : Int) else digitsValue 8 cs := by
  have hread : ∀ base, (∀ c ∈ cs, c.toNat - 48 < base) → integerIn base cs = .ok n →
      n = digitsValue base cs := by
    intro base hbase hn
    unfold integerIn at hn
    rw [readInt_digits h hbase] at hn
    split at hn
    · cases hn
    · exact (Except.ok.inj hn).symm
  have hdigit := h.isDigit
  unfold magnitudeOf at hn
  split at hn
  · cases hn
    rfl
  · exact absurd (hdigit 'b' (by simp)) (by decide)
  · exact absurd (hdigit 'x' (by simp)) (by decide)
  · rename_i ds hne _ _
    have hzero := not_noLeadingZero_cons fun h => hne (h ▸ rfl)
    rw [if_neg hzero]
    refine hread 8 (fun c hc => ?_) hn
    have hoctal := List.all_eq_true.mp (hform.resolve_left hzero) c hc
    have : c.toNat < 56 := of_decide_eq_true hoctal
    omega
  · cases hn
  · rename_i hne _
    have hzero := noLeadingZero_of_ne_cons hne
    have hcolon : cs.contains ':' = false := by
      rw [← Bool.not_eq_true, List.contains_iff_mem]
      intro hmem
      exact absurd (hdigit ':' hmem) (by decide)
    rw [hcolon] at hn
    rw [if_pos hzero]
    refine hread 10 (fun c hc => ?_) hn
    have := (isDigit_iff c).mp (hdigit c hc)
    omega

theorem integerOf_text (hpart : w.part = none) : integerOf w.text = magnitudeOf w.whole := by
  unfold integerOf Numeral.text
  rw [String.toList_ofList, dropMarks_chars, signOf_chars, Numeral.chars_of_none hpart]
  simp only [bind, Except.bind]
  cases magnitudeOf w.whole with
  | error e => rfl
  | ok n => rfl

/-- **A numeral as a plain text** has the value that its form says, if it has one. -/
theorem typed_numeral {c : Option Scalar} (h : typed (Tag.ofPlain w.text) w.text = .ok c) :
    c = some (scalarOf w) := by
  rw [ofPlain_text] at h
  unfold scalarOf
  cases hpart : w.part with
  | some ds =>
    simp only [hpart, Option.isSome_some, if_true] at h ⊢
    unfold typed at h
    rw [floatOf_text] at h
    exact (Except.ok.inj h).symm
  | none =>
    simp only [hpart, Option.isSome_none, Bool.false_eq_true, if_false] at h ⊢
    split_ifs at h with hform
    · unfold typed at h
      rw [integerOf_text w hpart] at h
      cases hn : magnitudeOf w.whole with
      | error e =>
        rw [hn] at h
        cases h
      | ok n =>
        rw [hn] at h
        rw [Bool.or_eq_true, decide_eq_true_eq] at hform
        have hvalue := magnitudeOf_digits w.whole_digits hform hn
        have hc : c = some (.int n) := (Except.ok.inj h).symm
        rw [hc, hvalue]
        split_ifs with hzero hoctal
        · rfl
        · rfl
        · exact absurd (hform.resolve_left hzero) hoctal
    · rw [Bool.not_eq_true, Bool.or_eq_false_iff, decide_eq_false_iff_not] at hform
      rw [if_neg hform.1, if_neg (by simp [hform.2])]
      exact (Except.ok.inj h).symm

/-! ### Values as texts -/

/-- A numeral is left as it is written. Digits are if there is no zero in front, or if they are then
not all of base eight; digits with a point have to be those that are written out. -/
def LeftAsWritten (w : Numeral) : Prop :=
  if w.part.isSome then w.Kept else NoLeadingZero w.whole ∨ ¬ w.whole.all (IsOctal ·) = true

/-- The values that numerals have. -/
inductive OfNumeral : Scalar → Prop where
  | int (n : Nat) : OfNumeral (.int n)
  | float {x : Binary64} (h : x.IsCanonical) : OfNumeral (.float x)
  | text {cs : List Char} (h : IsDigits cs) (hzero : ¬ NoLeadingZero cs) :
    OfNumeral (.text (String.ofList cs))

theorem ofNumeral_scalarOf : OfNumeral (scalarOf w) := by
  unfold scalarOf
  split_ifs with hpoint hzero hoctal
  · exact .float (Binary64.ofRational_isCanonical w.rational_nonneg)
  · exact .int _
  · exact .int _
  · rw [Numeral.text_of_none (Option.not_isSome_iff_eq_none.mp hpoint)]
    exact .text w.whole_digits hzero

theorem display_int (n : Nat) : (Scalar.int n).display = String.ofList (digitsOf n) := by
  show renderInt n = _
  unfold renderInt
  rw [if_neg (by omega)]
  rfl

/-- **Different values of numerals have different texts:** without a point there is no zero in front
of an integer, and one in front of a text. -/
theorem OfNumeral.display_inj {s t : Scalar} (hs : OfNumeral s) (ht : OfNumeral t)
    (h : s.display = t.display) : s = t := by
  have hmark : ∀ {x : Binary64} {cs : List Char}, x.IsCanonical → IsDigits cs →
      renderFloat x ≠ String.ofList cs := by
    intro x cs hx hcs heq
    obtain ⟨c, hmem, hc⟩ := exists_mark_renderFloat hx
    rw [heq, String.toList_ofList] at hmem
    rw [hcs.isDigit c hmem] at hc
    cases hc
  cases hs with
  | int n =>
    rw [display_int] at h
    cases ht with
    | int n' =>
      rw [display_int] at h
      rw [digitsOf_inj (String.ofList_injective h)]
    | float hx => exact absurd h.symm (hmark hx (isDigits_digitsOf n))
    | text _ hzero =>
      rw [← String.ofList_injective h] at hzero
      exact absurd (noLeadingZero_digitsOf n) hzero
  | float hx =>
    cases ht with
    | int n' =>
      rw [display_int] at h
      exact absurd h (hmark hx (isDigits_digitsOf n'))
    | float hx' => rw [renderFloat_inj hx hx' h]
    | text hdigits _ => exact absurd h (hmark hx hdigits)
  | text hdigits hzero =>
    cases ht with
    | int n' =>
      rw [display_int] at h
      rw [String.ofList_injective h] at hzero
      exact absurd (noLeadingZero_digitsOf n') hzero
    | float hx => exact absurd h.symm (hmark hx hdigits)
    | text hdigits' hzero' => exact congrArg Scalar.text h

/-- **A numeral comes back from its value** exactly if it is left as it is written. -/
theorem display_scalarOf_eq_iff : (scalarOf w).display = w.text ↔ LeftAsWritten w := by
  unfold scalarOf LeftAsWritten
  cases hpart : w.part with
  | some ds =>
    simp only [Option.isSome_some, if_true]
    exact renderFloat_eq_text_iff w
  | none =>
    have htext := Numeral.text_of_none hpart
    simp only [Option.isSome_none, Bool.false_eq_true, if_false]
    split_ifs with hzero hoctal
    · rw [display_int, digitsOf_digitsValue w.whole_digits hzero, htext]
      exact ⟨fun _ => .inl hzero, fun _ => rfl⟩
    · -- The digits of a number have no zero in front.
      refine ⟨fun h => ?_, fun h => absurd hoctal (h.resolve_left hzero)⟩
      rw [display_int, htext] at h
      have hdigits := noLeadingZero_digitsOf (digitsValue 8 w.whole)
      rw [String.ofList_injective h] at hdigits
      exact absurd hdigits hzero
    · exact ⟨fun _ => .inr hoctal, fun _ => rfl⟩

end Values

end ItemCatalog.Yaml
