import ItemCatalog.Text.Charset
import Mathlib.Data.List.Basic

/-! # UTF-8: one character after the other

Reading bytes in the variable-length form takes one character after the other. `leading` is one such
step: the character that bytes start with, or why they start with none, and how many bytes that
takes. -/

namespace ItemCatalog.Text.Charset

/-- The character that bytes start with, or why they start with none, and how many bytes that
takes. -/
def leading : List UInt8 → Option (Except String Char × Nat)
  | [] => none
  | a :: rest =>
    if a.toNat < 0x80 then some (.ok (Char.ofNat a.toNat), 1)
    else if a.toNat < 0xc2 || 0xf5 ≤ a.toNat then some (.error "invalid start byte", 1)
    else match rest with
      | [] => some (.error endReason, 1)
      | b :: rest =>
        if !goesOn b (secondBounds a).1 (secondBounds a).2 then some (.error goesOnReason, 1)
        else if a.toNat < 0xe0 then
          some (.ok (Char.ofNat ((a.toNat - 0xc0) * 64 + (b.toNat - 0x80))), 2)
        else match rest with
          | [] => some (.error endReason, 2)
          | c :: rest =>
            if !goesOn c 0x80 0xbf then some (.error goesOnReason, 2)
            else if a.toNat < 0xf0 then
              some (.ok (Char.ofNat (((a.toNat - 0xe0) * 64 + (b.toNat - 0x80)) * 64 +
                (c.toNat - 0x80))), 3)
            else match rest with
              | [] => some (.error endReason, 3)
              | d :: _ =>
                if !goesOn d 0x80 0xbf then some (.error goesOnReason, 3)
                else
                  some (.ok (Char.ofNat ((((a.toNat - 0xf0) * 64 + (b.toNat - 0x80)) * 64 +
                    (c.toNat - 0x80)) * 64 + (d.toNat - 0x80))), 4)

/-- **Reading bytes** takes what they start with, and goes on with the rest. -/
theorem decodeUtf8_eq (pos : Nat) (bytes : List UInt8) : decodeUtf8 pos bytes =
    match leading bytes with
    | none => .ok []
    | some (.ok c, count) => (decodeUtf8 (pos + count) (bytes.drop count)).map (c :: ·)
    | some (.error reason, count) => .error (utf8Fault (bytes.headD 0) pos count reason) := by
  unfold leading
  rw [decodeUtf8.eq_def]
  rcases bytes with _ | ⟨a, _ | ⟨b, _ | ⟨c, _ | ⟨d, rest⟩⟩⟩⟩
  · rfl
  · simp only
    split_ifs <;> rfl
  · simp only
    split_ifs <;> rfl
  · simp only
    split_ifs <;> rfl
  · simp only
    split_ifs <;> rfl

/-! ### One step -/

/-- A step takes at least one byte. -/
theorem one_le_count {bytes : List UInt8} {r : Except String Char} {count : Nat}
    (h : leading bytes = some (r, count)) : 1 ≤ count := by
  revert h
  fun_cases leading bytes <;> intro h <;> cases h <;> omega

/-- A character depends on its own bytes only. -/
theorem leading_take {bytes : List UInt8} {c : Char} {count : Nat}
    (h : leading bytes = some (.ok c, count)) (more : List UInt8) :
    leading (bytes.take count ++ more) = some (.ok c, count) ∧
      (bytes.take count).length = count := by
  revert h
  fun_cases leading bytes <;> intro h <;>
    simp only [reduceCtorEq, Option.some.injEq, Prod.mk.injEq, Except.ok.injEq, false_and] at h
  -- What is left are the characters of one to four bytes, with all checks passed.
  all_goals
    obtain ⟨rfl, rfl⟩ := h
    refine ⟨?_, rfl⟩
    simp only [List.take_succ_cons, List.take_zero, List.cons_append, List.nil_append, leading]
    split_ifs
    rfl

theorem goesOn_iff (b : UInt8) (least most : Nat) :
    goesOn b least most = true ↔ least ≤ b.toNat ∧ b.toNat ≤ most := by
  simp [goesOn]

/-- Whether a byte can be the second one after a first one, by the numbers of both. -/
theorem second_goesOn_iff (a b : UInt8) :
    goesOn b (secondBounds a).1 (secondBounds a).2 = true ↔ 0x80 ≤ b.toNat ∧ b.toNat ≤ 0xbf ∧
      (a.toNat = 0xe0 → 0xa0 ≤ b.toNat) ∧ (a.toNat = 0xed → b.toNat ≤ 0x9f) ∧
      (a.toNat = 0xf0 → 0x90 ≤ b.toNat) ∧ (a.toNat = 0xf4 → b.toNat ≤ 0x8f) := by
  rw [goesOn_iff]
  simp only [secondBounds, beq_iff_eq, ← UInt8.toNat_inj]
  have h1 : (0xe0 : UInt8).toNat = 0xe0 := rfl
  have h2 : (0xed : UInt8).toNat = 0xed := rfl
  have h3 : (0xf0 : UInt8).toNat = 0xf0 := rfl
  have h4 : (0xf4 : UInt8).toNat = 0xf4 := rfl
  rw [h1, h2, h3, h4]
  split_ifs <;> simp only <;> omega

theorem second_within {a b : UInt8}
    (h : (secondBounds a).1 ≤ b.toNat ∧ b.toNat ≤ (secondBounds a).2) :
    0x80 ≤ b.toNat ∧ b.toNat ≤ 0xbf := by
  have hb := (second_goesOn_iff a b).mp ((goesOn_iff b _ _).mpr h)
  exact ⟨hb.1, hb.2.1⟩

/-- The bytes after the first one that a step takes are such as go on with a character. -/
theorem leading_tail {bytes : List UInt8} {r : Except String Char} {count : Nat}
    (h : leading bytes = some (r, count)) : count ≤ bytes.length ∧
      ∀ b ∈ (bytes.take count).tail, 0x80 ≤ b.toNat ∧ b.toNat ≤ 0xbf := by
  revert h
  fun_cases leading bytes <;> intro h <;>
    simp only [reduceCtorEq, Option.some.injEq, Prod.mk.injEq] at h
  all_goals
    obtain ⟨rfl, rfl⟩ := h
    simp_all [goesOn_iff]
  -- The second byte keeps to the bounds of its first one, which are within those of all others.
  all_goals
    exact second_within ‹_›

section Bytes

variable {a b c d : UInt8} (tail : List UInt8)

theorem leading_one (ha : a.toNat < 0x80) :
    leading (a :: tail) = some (.ok (Char.ofNat a.toNat), 1) := by
  unfold leading
  simp only
  rw [if_pos ha]

theorem leading_two (ha : 0xc2 ≤ a.toNat ∧ a.toNat < 0xe0)
    (hb : goesOn b (secondBounds a).1 (secondBounds a).2 = true) : leading (a :: b :: tail) =
      some (.ok (Char.ofNat ((a.toNat - 0xc0) * 64 + (b.toNat - 0x80))), 2) := by
  unfold leading
  simp only
  rw [if_neg (by omega), if_neg (by simp; omega), if_neg (by simp [hb]), if_pos ha.2]

theorem leading_three (ha : 0xe0 ≤ a.toNat ∧ a.toNat < 0xf0)
    (hb : goesOn b (secondBounds a).1 (secondBounds a).2 = true)
    (hc : goesOn c 0x80 0xbf = true) : leading (a :: b :: c :: tail) =
      some (.ok (Char.ofNat (((a.toNat - 0xe0) * 64 + (b.toNat - 0x80)) * 64 +
        (c.toNat - 0x80))), 3) := by
  unfold leading
  simp only
  rw [if_neg (by omega), if_neg (by simp; omega), if_neg (by simp [hb]), if_neg (by omega),
    if_neg (by simp [hc]), if_pos ha.2]

theorem leading_four (ha : 0xf0 ≤ a.toNat ∧ a.toNat < 0xf5)
    (hb : goesOn b (secondBounds a).1 (secondBounds a).2 = true)
    (hc : goesOn c 0x80 0xbf = true) (hd : goesOn d 0x80 0xbf = true) :
    leading (a :: b :: c :: d :: tail) =
      some (.ok (Char.ofNat ((((a.toNat - 0xf0) * 64 + (b.toNat - 0x80)) * 64 +
        (c.toNat - 0x80)) * 64 + (d.toNat - 0x80))), 4) := by
  unfold leading
  simp only
  rw [if_neg (by omega), if_neg (by simp; omega), if_neg (by simp [hb]), if_neg (by omega),
    if_neg (by simp [hc]), if_neg (by omega), if_neg (by simp [hd])]

end Bytes

/-- The bytes of a character start with this character. -/
theorem leading_encode (c : Char) (tail : List UInt8) :
    leading (String.utf8EncodeChar c ++ tail) = some (.ok c, (String.utf8EncodeChar c).length) := by
  have hvalid : c.toNat < 0xd800 ∨ 0xdfff < c.toNat ∧ c.toNat < 0x110000 := c.valid
  have hchar : ∀ {n}, n = c.toNat → Char.ofNat n = c := fun hn => by rw [hn, Char.ofNat_toNat]
  have hbyte : ∀ {n}, n < 256 → (UInt8.ofNat n).toNat = n := fun hn => UInt8.toNat_ofNat_of_lt' hn
  have htail : ∀ n, (UInt8.ofNat (n % 0x40 + 0x80)).toNat = n % 0x40 + 0x80 := fun n =>
    hbyte (by omega)
  have hgoesOn : ∀ n, goesOn (UInt8.ofNat (n % 0x40 + 0x80)) 0x80 0xbf = true := fun n => by
    rw [goesOn_iff, htail]
    omega
  unfold String.utf8EncodeChar
  simp only [Char.toNat_val]
  split_ifs with h1 h2 h3 <;>
    simp only [List.cons_append, List.nil_append, List.length_cons, List.length_nil]
  · have ha := hbyte (show c.toNat < 256 by omega)
    rw [leading_one _ (by omega), ha, hchar rfl]
  · have ha := hbyte (show c.toNat / 64 % 0x20 + 0xc0 < 256 by omega)
    rw [leading_two _ (by omega) (by rw [second_goesOn_iff, ha, htail]; omega), ha, htail,
      hchar (by omega)]
  · have ha := hbyte (show c.toNat / 4096 % 0x10 + 0xe0 < 256 by omega)
    rw [leading_three _ (by omega) (by rw [second_goesOn_iff, ha, htail]; omega) (hgoesOn _), ha,
      htail, htail, hchar (by omega)]
  · have ha := hbyte (show c.toNat / 262144 % 0x08 + 0xf0 < 256 by omega)
    rw [leading_four _ (by omega) (by rw [second_goesOn_iff, ha, htail]; omega) (hgoesOn _)
      (hgoesOn _), ha, htail, htail, htail, hchar (by omega)]

/-! ### Whole readings -/

/-- What is left after a step is shorter. -/
theorem length_drop_lt {bytes : List UInt8} {r : Except String Char} {count : Nat}
    (h : leading bytes = some (r, count)) : (bytes.drop count).length < bytes.length := by
  have hcount := one_le_count h
  cases bytes with
  | nil => cases h
  | cons a rest =>
    rw [List.length_drop, List.length_cons]
    omega

/-- The place of the first byte only says where a reading ends. -/
theorem decodeUtf8_shift (pos offset : Nat) (bytes : List UInt8) :
    decodeUtf8 (pos + offset) bytes =
      (decodeUtf8 pos bytes).mapError fun e => { e with start := e.start + offset } := by
  induction hn : bytes.length using Nat.strongRecOn generalizing pos bytes with
  | ind n ih =>
    subst hn
    rw [decodeUtf8_eq, decodeUtf8_eq pos]
    cases hlead : leading bytes with
    | none => rfl
    | some step =>
      obtain ⟨e | c, count⟩ := step
      · rfl
      · have hrest := ih _ (length_drop_lt hlead) (pos + count) (bytes.drop count) rfl
        simp only
        rw [Nat.add_right_comm, hrest]
        cases decodeUtf8 (pos + count) (bytes.drop count) <;> rfl

/-- A character in front of bytes that can be read. -/
theorem decodeUtf8_take {bytes : List UInt8} {c : Char} {count n : Nat} {cs : List Char}
    (hlead : leading bytes = some (.ok c, count))
    (h : decodeUtf8 0 ((bytes.drop count).take n) = .ok cs) :
    decodeUtf8 0 (bytes.take (n + count)) = .ok (c :: cs) := by
  obtain ⟨hfirst, hlength⟩ := leading_take hlead ((bytes.drop count).take n)
  rw [Nat.add_comm, List.take_add, decodeUtf8_eq, hfirst]
  simp only
  rw [decodeUtf8_shift, List.drop_left' hlength, h]
  rfl

/-- **The bytes before a fault** can be read. -/
theorem decodeUtf8_before {bytes : List UInt8} {e : BadBytes} (h : decodeUtf8 0 bytes = .error e) :
    ∃ cs, decodeUtf8 0 (bytes.take e.start) = .ok cs := by
  induction hn : bytes.length using Nat.strongRecOn generalizing bytes e with
  | ind n ih =>
    subst hn
    rw [decodeUtf8_eq] at h
    cases hlead : leading bytes with
    | none =>
      rw [hlead] at h
      cases h
    | some step =>
      rw [hlead] at h
      obtain ⟨reason | c, count⟩ := step
      · cases h
        exact ⟨[], rfl⟩
      · simp only at h
        rw [decodeUtf8_shift] at h
        cases hrest : decodeUtf8 0 (bytes.drop count) with
        | ok cs =>
          rw [hrest] at h
          cases h
        | error e' =>
          rw [hrest] at h
          cases h
          obtain ⟨cs, hcs⟩ := ih _ (length_drop_lt hlead) hrest rfl
          exact ⟨c :: cs, decodeUtf8_take hlead hcs⟩

/-! ### The bytes of texts -/

/-- The first byte of a character cannot go on with another one. -/
theorem encode_head {c : Char} {a : UInt8} {more : List UInt8}
    (h : String.utf8EncodeChar c = a :: more) : a.toNat < 0x80 ∨ 0xc0 ≤ a.toNat := by
  unfold String.utf8EncodeChar at h
  simp only at h
  split_ifs at h <;> cases h <;> simp only [UInt8.toNat_ofNat'] <;> omega

/-- A character below 128 is one byte. -/
theorem encode_ascii {c : Char} (h : c.toNat < 0x80) :
    String.utf8EncodeChar c = [UInt8.ofNat c.toNat] := by
  unfold String.utf8EncodeChar
  simp only [Char.toNat_val]
  rw [if_pos (Nat.le_of_lt_succ h)]

/-- The bytes of a character from 128 on are from 128 on, too. -/
theorem encode_beyond {c : Char} (h : 0x80 ≤ c.toNat) :
    ∀ b ∈ String.utf8EncodeChar c, 0x80 ≤ b.toNat := by
  unfold String.utf8EncodeChar
  simp only [Char.toNat_val]
  split_ifs
  · omega
  all_goals
    simp only [List.mem_cons, List.not_mem_nil, or_false, forall_eq_or_imp, forall_eq,
      UInt8.toNat_ofNat']
    omega

theorem toList_loop_eq (bytes : ByteArray) (i : Nat) (read : List UInt8) :
    ByteArray.toList.loop bytes i read = read.reverse ++ bytes.data.toList.drop i := by
  fun_induction ByteArray.toList.loop bytes i read with
  | case1 i read h ih =>
    have hi : i < bytes.data.toList.length := by simpa using h
    rw [ih, List.drop_eq_getElem_cons hi]
    simp [ByteArray.get!, h]
  | case2 i read h =>
    rw [List.drop_eq_nil_of_le (by simpa using Nat.le_of_not_lt h)]
    simp

/-- **The bytes of a text** are those of its characters. -/
theorem toUTF8_toList (s : String) : s.toUTF8.toList = s.toList.flatMap String.utf8EncodeChar := by
  have hbytes : s.toUTF8 = (s.toList.flatMap String.utf8EncodeChar).toByteArray := by
    conv_lhs => rw [← String.ofList_toList (s := s), String.toUTF8_eq_toByteArray]
    rfl
  rw [hbytes, ByteArray.toList, toList_loop_eq, List.toList_data_toByteArray]
  rfl

end ItemCatalog.Text.Charset
