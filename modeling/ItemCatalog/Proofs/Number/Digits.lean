import Mathlib.Data.List.TakeWhile
import Mathlib.Tactic.Linarith
import Mathlib.Tactic.Ring
import ItemCatalog.Number.Read

/-! # Digits: texts that write natural numbers

The value of a text of digits, which numbers and lengths it can have, and that two texts of one
length and value are the same. Texts without a zero in front are those that `digitsOf` writes. The
last section says what the readers of integers make of digits. -/

namespace ItemCatalog.Number

open ItemCatalog.Text

/-- A text is made of digits, and not empty. -/
structure IsDigits (cs : List Char) : Prop where
  ne_nil : cs ≠ []
  isDigit : ∀ c ∈ cs, c.isDigit = true

/-- The number that digits write in a base. -/
def digitsValue (base : ℕ) (cs : List Char) : ℕ :=
  Nat.ofDigitChars base cs 0

/-- A text of digits has no zero in front, or is the zero. -/
def NoLeadingZero (cs : List Char) : Prop :=
  cs = ['0'] ∨ cs.head? ≠ some '0'

instance (cs : List Char) : Decidable (NoLeadingZero cs) :=
  inferInstanceAs (Decidable (_ ∨ _))

theorem not_noLeadingZero_cons {cs : List Char} (h : cs ≠ []) : ¬ NoLeadingZero ('0' :: cs) := by
  unfold NoLeadingZero
  simpa using h

theorem noLeadingZero_of_ne_cons {cs : List Char} (h : ∀ ds, cs ≠ '0' :: ds) :
    NoLeadingZero cs := by
  right
  intro hhead
  obtain ⟨ds, hds⟩ := List.head?_eq_some_iff.mp hhead
  exact h ds hds

theorem isDigit_iff (c : Char) : c.isDigit = true ↔ 48 ≤ c.toNat ∧ c.toNat ≤ 57 := by
  unfold Char.isDigit
  rw [Bool.and_eq_true, decide_eq_true_eq, decide_eq_true_eq]
  rfl

theorem isDigits_zero : IsDigits ['0'] :=
  ⟨by simp, List.forall_mem_singleton.mpr rfl⟩

theorem IsDigits.append {cs cs' : List Char} (h : IsDigits cs) (h' : ∀ c ∈ cs', c.isDigit = true) :
    IsDigits (cs ++ cs') where
  ne_nil := by simp [h.ne_nil]
  isDigit c hc := by
    rcases List.mem_append.mp hc with hc | hc
    · exact h.isDigit c hc
    · exact h' c hc

theorem isDigit_of_mem_zeros {k : ℕ} {c : Char} (hc : c ∈ List.replicate k '0') :
    c.isDigit = true := by
  rw [List.eq_of_mem_replicate hc]
  rfl

/-! ### Values -/

@[simp] theorem digitsValue_nil (base : ℕ) : digitsValue base [] = 0 := rfl

theorem digitsValue_append (cs cs' : List Char) :
    digitsValue 10 (cs ++ cs') = digitsValue 10 cs * 10 ^ cs'.length + digitsValue 10 cs' := by
  unfold digitsValue
  rw [Nat.ofDigitChars_append, Nat.ofDigitChars_eq_ofDigitChars_zero, Nat.mul_comm]

theorem digitsValue_cons (c : Char) (cs : List Char) :
    digitsValue 10 (c :: cs) = (c.toNat - 48) * 10 ^ cs.length + digitsValue 10 cs := by
  rw [← List.singleton_append, digitsValue_append]
  simp [digitsValue, Nat.ofDigitChars_cons]

@[simp] theorem digitsValue_zeros (base k : ℕ) : digitsValue base (List.replicate k '0') = 0 := by
  unfold digitsValue
  rw [Nat.ofDigitChars_replicate_zero, Nat.mul_zero]

@[simp] theorem digitsValue_zero_cons (cs : List Char) :
    digitsValue 10 ('0' :: cs) = digitsValue 10 cs := by
  rw [digitsValue_cons]
  simp

theorem digitsValue_lt {cs : List Char} (h : ∀ c ∈ cs, c.isDigit = true) :
    digitsValue 10 cs < 10 ^ cs.length := by
  induction cs with
  | nil => simp
  | cons c cs ih =>
    have hc := (isDigit_iff c).mp (h c List.mem_cons_self)
    have htail := ih fun x hx => h x (List.mem_cons_of_mem c hx)
    have hle : (c.toNat - 48) * 10 ^ cs.length ≤ 9 * 10 ^ cs.length :=
      Nat.mul_le_mul_right _ (by omega)
    rw [digitsValue_cons, List.length_cons, Nat.pow_succ]
    omega

/-- The first digit is worth at least its place if it is no zero. -/
theorem le_digitsValue {cs : List Char} (h : IsDigits cs) (hhead : cs.head? ≠ some '0') :
    10 ^ (cs.length - 1) ≤ digitsValue 10 cs := by
  obtain ⟨c, tail, rfl⟩ := List.exists_cons_of_ne_nil h.ne_nil
  have hc := (isDigit_iff c).mp (h.isDigit c List.mem_cons_self)
  have hne : c.toNat ≠ 48 := by
    intro heq
    refine hhead (congrArg some ?_)
    exact Char.ext (UInt32.toNat.inj heq)
  have hone : 1 * 10 ^ tail.length ≤ (c.toNat - 48) * 10 ^ tail.length :=
    Nat.mul_le_mul_right _ (by omega)
  rw [digitsValue_cons, List.length_cons, Nat.add_sub_cancel]
  omega

/-- Digits of one length and value are the same. -/
theorem eq_of_digitsValue_eq {cs cs' : List Char} (h : ∀ c ∈ cs, c.isDigit = true)
    (h' : ∀ c ∈ cs', c.isDigit = true) (hlength : cs.length = cs'.length)
    (hvalue : digitsValue 10 cs = digitsValue 10 cs') : cs = cs' := by
  induction cs generalizing cs' with
  | nil => exact (List.length_eq_zero_iff.mp hlength.symm).symm
  | cons c cs ih =>
    obtain _ | ⟨c', cs'⟩ := cs'
    · simp at hlength
    have hlength' : cs.length = cs'.length := by simpa using hlength
    have hc := (isDigit_iff c).mp (h c List.mem_cons_self)
    have hc' := (isDigit_iff c').mp (h' c' List.mem_cons_self)
    have htail : ∀ x ∈ cs, x.isDigit = true := fun x hx => h x (List.mem_cons_of_mem c hx)
    have htail' : ∀ x ∈ cs', x.isDigit = true := fun x hx => h' x (List.mem_cons_of_mem c' hx)
    have hlt := digitsValue_lt htail
    have hlt' := digitsValue_lt htail'
    rw [digitsValue_cons, digitsValue_cons, ← hlength'] at hvalue
    rw [← hlength'] at hlt'
    -- The leading digits are the quotients by the place, and the rest the remainders.
    have hfirst : c.toNat - 48 = c'.toNat - 48 := by
      have hdiv : ((c.toNat - 48) * 10 ^ cs.length + digitsValue 10 cs) / 10 ^ cs.length =
          ((c'.toNat - 48) * 10 ^ cs.length + digitsValue 10 cs') / 10 ^ cs.length := by
        rw [hvalue]
      rwa [Nat.add_comm, Nat.add_mul_div_right _ _ (by positivity), Nat.div_eq_of_lt hlt,
        Nat.add_comm, Nat.add_comm (_ * _), Nat.add_mul_div_right _ _ (by positivity),
        Nat.div_eq_of_lt hlt', Nat.add_zero, Nat.zero_add] at hdiv
    have heq : c = c' := Char.ext (UInt32.toNat.inj (show c.toNat = c'.toNat by omega))
    rw [hfirst] at hvalue
    rw [heq, ih htail htail' hlength' (by omega)]

/-! ### The digits of a number -/

theorem isDigits_digitsOf (n : ℕ) : IsDigits (digitsOf n) where
  ne_nil := Nat.toDigits_ne_nil
  isDigit c := Nat.isDigit_of_mem_toDigits (by norm_num) le_rfl

@[simp] theorem digitsValue_digitsOf (n : ℕ) : digitsValue 10 (digitsOf n) = n :=
  Nat.ofDigitChars_ten_toDigits

/-- A length is that of the digits of all numbers between two powers. -/
theorem length_digitsOf_le_iff {n k : ℕ} (hk : 0 < k) : (digitsOf n).length ≤ k ↔ n < 10 ^ k :=
  Nat.length_toDigits_le_iff (by norm_num) hk

theorem noLeadingZero_digitsOf (n : ℕ) : NoLeadingZero (digitsOf n) := by
  rcases Nat.eq_zero_or_pos n with rfl | hn
  · exact .inl rfl
  right
  intro hhead
  obtain ⟨c, tail, hcons⟩ := List.exists_cons_of_ne_nil (isDigits_digitsOf n).ne_nil
  have hdigits := isDigits_digitsOf n
  have hvalue := digitsValue_digitsOf n
  rw [hcons] at hhead hdigits hvalue
  obtain rfl : c = '0' := by simpa using hhead
  rw [digitsValue_zero_cons] at hvalue
  have hlt := digitsValue_lt fun x hx => hdigits.isDigit x (List.mem_cons_of_mem '0' hx)
  rw [hvalue] at hlt
  have hlength : (digitsOf n).length = tail.length + 1 := by rw [hcons, List.length_cons]
  rcases Nat.eq_zero_or_pos tail.length with htail | htail
  · rw [htail] at hlt
    omega
  · have := (length_digitsOf_le_iff htail).mpr hlt
    omega

/-- **Digits without a zero in front are the digits of their value.** -/
theorem digitsOf_digitsValue {cs : List Char} (h : IsDigits cs) (hzero : NoLeadingZero cs) :
    digitsOf (digitsValue 10 cs) = cs := by
  rcases hzero with rfl | hhead
  · rfl
  have hpos : 0 < cs.length := List.length_pos_iff.mpr h.ne_nil
  have hle : (digitsOf (digitsValue 10 cs)).length ≤ cs.length :=
    (length_digitsOf_le_iff hpos).mpr (digitsValue_lt h.isDigit)
  have hge : cs.length ≤ (digitsOf (digitsValue 10 cs)).length := by
    have hlow := le_digitsValue h hhead
    have hlength : 0 < (digitsOf (digitsValue 10 cs)).length :=
      List.length_pos_iff.mpr (isDigits_digitsOf _).ne_nil
    by_contra hlt
    have := (length_digitsOf_le_iff (show 0 < cs.length - 1 by omega)).mp
      (show (digitsOf (digitsValue 10 cs)).length ≤ cs.length - 1 by omega)
    omega
  exact eq_of_digitsValue_eq (isDigits_digitsOf _).isDigit h.isDigit (le_antisymm hle hge)
    (digitsValue_digitsOf _)

theorem digitsOf_inj {n n' : ℕ} (h : digitsOf n = digitsOf n') : n = n' := by
  rw [← digitsValue_digitsOf n, h, digitsValue_digitsOf]

/-! ### Zeros at the end -/

/-- What is dropped are zeros, and no zero is left at the end. -/
theorem dropTrailingZeros_spec {cs : List Char} (hpos : 0 < digitsValue 10 cs) :
    (∃ k, cs = dropTrailingZeros cs ++ List.replicate k '0') ∧
      (dropTrailingZeros cs).getLast? ≠ some '0' := by
  have hsplit := List.takeWhile_append_dropWhile (p := (· == '0')) (l := cs.reverse)
  have hzeros : cs.reverse.takeWhile (· == '0') =
      List.replicate (cs.reverse.takeWhile (· == '0')).length '0' := by
    rw [List.eq_replicate_iff]
    exact ⟨rfl, fun c hc => by simpa using List.mem_takeWhile_imp hc⟩
  have hcs : cs = (cs.reverse.dropWhile (· == '0')).reverse ++
      List.replicate (cs.reverse.takeWhile (· == '0')).length '0' := by
    have := congrArg List.reverse hsplit
    rw [List.reverse_append, List.reverse_reverse, hzeros, List.reverse_replicate] at this
    exact this.symm
  have hne : (cs.reverse.dropWhile (· == '0')).reverse ≠ [] := by
    intro hnil
    rw [hnil, List.nil_append] at hcs
    rw [hcs, digitsValue_zeros] at hpos
    omega
  have hdrop : dropTrailingZeros cs = (cs.reverse.dropWhile (· == '0')).reverse := by
    unfold dropTrailingZeros
    split
    · exact absurd ‹_› hne
    · rfl
  rw [hdrop]
  refine ⟨⟨_, hcs⟩, ?_⟩
  rw [List.getLast?_reverse]
  intro hhead
  have := List.head?_dropWhile_not (· == '0') cs.reverse
  rw [hhead] at this
  simp at this

/-! ### Reading digits -/

theorem isBlank_of_isDigit {c : Char} (h : c.isDigit = true) : isBlank c = false := by
  have hc := (isDigit_iff c).mp h
  unfold isBlank blankRanges
  rw [← Bool.not_eq_true, Ranges.has_iff]
  simp only [List.mem_cons, List.not_mem_nil, or_false]
  rintro ⟨r, hr, hlow, hhigh⟩
  rcases hr with rfl | rfl | rfl | rfl | rfl | rfl | rfl | rfl | rfl | rfl <;> omega

theorem decimalValue?_of_isDigit {c : Char} (h : c.isDigit = true) :
    decimalValue? c = some (c.toNat - 48) := by
  have hc := (isDigit_iff c).mp h
  unfold decimalValue?
  rw [if_pos (by omega), if_pos h]

theorem ne_mark_of_isDigit {c : Char} (h : c.isDigit = true) : c ≠ '_' := by
  rintro rfl
  revert h
  decide

theorem toLower_of_isDigit {c : Char} (h : c.isDigit = true) : c.toLower = c := by
  have hc := (isDigit_iff c).mp h
  unfold Char.toLower
  rw [dif_neg]
  rintro ⟨hlow, -⟩
  have : 65 ≤ c.toNat := hlow
  omega

theorem digitsIn?_digits {base : ℕ} {cs : List Char} {between : Bool}
    (hbetween : between = true ∨ cs ≠ []) (h : ∀ c ∈ cs, c.isDigit = true)
    (hbase : ∀ c ∈ cs, c.toNat - 48 < base) :
    digitsIn? base between cs = some (cs.map fun c => c.toNat - 48) := by
  induction cs generalizing between with
  | nil =>
    rcases hbetween with rfl | hne
    · rfl
    · exact absurd rfl hne
  | cons c cs ih =>
    have hc := h c List.mem_cons_self
    have htail := @ih true (.inl rfl) (fun x hx => h x (List.mem_cons_of_mem c hx))
      fun x hx => hbase x (List.mem_cons_of_mem c hx)
    rw [digitsIn?.eq_3 _ _ _ _ (ne_mark_of_isDigit hc)]
    unfold digitValue?
    rw [decimalValue?_of_isDigit hc]
    simp only
    rw [if_pos (hbase c List.mem_cons_self), htail]
    rfl

theorem ofDigits_digits (base : ℕ) (cs : List Char) :
    ofDigits base (cs.map fun c => c.toNat - 48) = digitsValue base cs := by
  unfold ofDigits digitsValue
  rw [List.foldl_map, Nat.ofDigitChars_eq_foldl]
  rfl

theorem stripChars_of_isDigit {cs : List Char} (h : ∀ c ∈ cs, c.isDigit = true) :
    stripChars cs = cs :=
  stripChars_of_not_blank fun c hc => isBlank_of_isDigit (h c hc)

theorem readSign_of_isDigit {cs : List Char} (h : IsDigits cs) : readSign cs = (false, cs) := by
  obtain ⟨c, tail, rfl⟩ := List.exists_cons_of_ne_nil h.ne_nil
  have hc := h.isDigit c List.mem_cons_self
  unfold readSign
  split
  · exact absurd hc (by simp_all)
  · exact absurd hc (by simp_all)
  · rfl

theorem dropBaseMark_of_isDigit (base : ℕ) {cs : List Char} (h : ∀ c ∈ cs, c.isDigit = true) :
    dropBaseMark base cs = cs := by
  unfold dropBaseMark
  split
  · rename_i m rest
    have hm := h m (by simp)
    have hmark : baseMark base m = false := by
      unfold baseMark
      split <;> simp <;> constructor <;> rintro rfl <;> revert hm <;> decide
    rw [hmark]
    rfl
  · rfl

/-- **An integer in a base** is the value of its digits, unless it has too many in base ten. -/
theorem readInt_digits {base : ℕ} {cs : List Char} (h : IsDigits cs)
    (hbase : ∀ c ∈ cs, c.toNat - 48 < base) :
    readInt base (String.ofList cs) =
      if base == 10 && maxDigits < cs.length then .error (.tooManyDigits cs.length)
      else .ok (digitsValue base cs) := by
  unfold readInt
  rw [String.toList_ofList, stripChars_of_isDigit h.isDigit, readSign_of_isDigit h]
  simp only
  rw [dropBaseMark_of_isDigit base h.isDigit,
    digitsIn?_digits (.inr h.ne_nil) h.isDigit hbase]
  simp only [List.length_map, ofDigits_digits]
  rfl

end ItemCatalog.Number
