import ItemCatalog.Proofs.Text.Utf8
import ItemCatalog.Text.Percent
import Mathlib.Data.List.Infix

/-! # Percent signs: reading takes back what was written

The groups of a text are its percent signs with two hexadecimal digits after them. Reading a text
takes it piece by piece: a group is a byte, and every other character is itself (`pieces`). The
bytes of a character are never mixed up with those of groups around it, so that reading never makes
more characters than there are pieces.

* `decode_encode`: reading what was written, whatever characters are plain;
* `decode_of_no_group`, `length_decode_lt`: a text without groups stays, one with groups gets
  shorter. -/

namespace ItemCatalog.Text.Percent

open Charset

/-! ### Reading with the sign for an unknown character -/

theorem lossyChars_nil (n : Nat) : lossyChars n [] = [] := by
  cases n <;> rfl

/-- A character at the start is read. -/
theorem lossyChars_of_char {bytes : List UInt8} {c : Char} {count : Nat}
    (h : leading bytes = some (.ok c, count)) (n : Nat) :
    lossyChars (n + 1) bytes = c :: lossyChars (n + 1) (bytes.drop count) := by
  rw [lossyChars, lossyChars, decodeUtf8_eq, h]
  simp only
  rw [decodeUtf8_shift]
  cases hrest : decodeUtf8 0 (bytes.drop count) with
  | ok cs => rfl
  | error e =>
    obtain ⟨cs, hcs⟩ := decodeUtf8_before hrest
    have hall := decodeUtf8_take h hcs
    have hplace : e.start + count + e.count = count + (e.start + e.count) := by omega
    simp only [Except.mapError, Except.map, hall, hcs, List.drop_drop, hplace]
    rfl

/-- Bytes at the start that are no character give the sign for an unknown one. -/
theorem lossyChars_of_bad {bytes : List UInt8} {reason : String} {count : Nat}
    (h : leading bytes = some (.error reason, count)) (n : Nat) :
    lossyChars (n + 1) bytes = '\ufffd' :: lossyChars n (bytes.drop count) := by
  rw [lossyChars, decodeUtf8_eq, h]
  simp only [utf8Fault, Nat.zero_add]
  rfl

/-- **The bytes of characters** are read as these characters. -/
theorem lossyChars_encode (n : Nat) (l : List Char) (tail : List UInt8) :
    lossyChars (n + 1) (l.flatMap String.utf8EncodeChar ++ tail) =
      l ++ lossyChars (n + 1) tail := by
  induction l with
  | nil => rfl
  | cons c l ih =>
    rw [List.flatMap_cons, List.append_assoc, lossyChars_of_char (leading_encode c _),
      List.drop_left, ih, List.cons_append]

/-! ### Pieces -/

/-- A piece of a text: a character, or a group that stands for a byte. -/
inductive Piece where
  | char (c : Char)
  | byte (b : UInt8)

/-- The bytes of a piece. -/
def Piece.bytes : Piece → List UInt8
  | .char c => String.utf8EncodeChar c
  | .byte b => [b]

/-- The value of a character as a hexadecimal digit. -/
def hexOf? (c : Char) : Option Nat :=
  if c.toNat < 0x80 then hexValue? (UInt8.ofNat c.toNat) else none

/-- The pieces of a text, from its start. -/
def pieces : List Char → List Piece
  | '%' :: a :: b :: rest =>
    match hexOf? a, hexOf? b with
    | some m, some n => .byte (UInt8.ofNat (16 * m + n)) :: pieces rest
    | _, _ => .char '%' :: pieces (a :: b :: rest)
  | c :: rest => .char c :: pieces rest
  | [] => []

theorem hexValue_beyond {b : UInt8} (h : 0x80 ≤ b.toNat) : hexValue? b = none := by
  unfold hexValue?
  simp only [Bool.and_eq_true, decide_eq_true_eq]
  rw [if_neg (by omega), if_neg (by omega), if_neg (by omega)]

/-- The first byte of a character tells whether it is a digit, and then it is the only one. -/
theorem encode_digit (c : Char) : ∃ a more, String.utf8EncodeChar c = a :: more ∧
    hexValue? a = hexOf? c ∧ (hexOf? c ≠ none → more = []) := by
  unfold hexOf?
  by_cases hc : c.toNat < 0x80
  · exact ⟨_, [], encode_ascii hc, by rw [if_pos hc], fun _ => rfl⟩
  · cases hbytes : String.utf8EncodeChar c with
    | nil => exact absurd hbytes String.utf8EncodeChar_ne_nil
    | cons a more =>
      have ha : 0x80 ≤ a.toNat :=
        encode_beyond (Nat.le_of_not_lt hc) a (hbytes ▸ List.mem_cons_self)
      refine ⟨a, more, rfl, ?_, fun h => ?_⟩
      · rw [if_neg hc, hexValue_beyond ha]
      · rw [if_neg hc] at h
        exact absurd rfl h

/-- A byte that is no percent sign of a group stays. -/
theorem decodeBytes_cons {b : UInt8} {tail : List UInt8} (h : b = 37 → ∀ x y rest,
    tail = x :: y :: rest → hexValue? x = none ∨ hexValue? y = none) :
    decodeBytes (b :: tail) = b :: decodeBytes tail := by
  by_cases hb : b = 37
  · subst hb
    rcases tail with _ | ⟨x, _ | ⟨y, rest⟩⟩
    · rfl
    · rfl
    · have hxy := h rfl x y rest rfl
      rw [decodeBytes]
      rcases hxy with hx | hy
      · rw [hx]
      · rw [hy]
        cases hexValue? x <;> rfl
  · rw [decodeBytes]
    exact fun _ _ _ h37 _ => hb h37

/-- Bytes without percent signs stay. -/
theorem decodeBytes_append {bytes : List UInt8} (h : ∀ b ∈ bytes, b ≠ 37) (tail : List UInt8) :
    decodeBytes (bytes ++ tail) = bytes ++ decodeBytes tail := by
  induction bytes with
  | nil => rfl
  | cons b bytes ih =>
    have hb : b ≠ 37 := h b List.mem_cons_self
    rw [List.cons_append, decodeBytes_cons fun h37 => absurd h37 hb,
      ih fun x hx => h x (List.mem_cons_of_mem b hx), List.cons_append]

theorem encode_ne_percent {c : Char} (hc : c ≠ '%') :
    ∀ b ∈ String.utf8EncodeChar c, b ≠ 37 := by
  rintro b hb rfl
  by_cases hlt : c.toNat < 0x80
  · rw [encode_ascii hlt, List.mem_singleton] at hb
    have hnat : (37 : UInt8).toNat = (UInt8.ofNat c.toNat).toNat := congrArg UInt8.toNat hb
    rw [UInt8.toNat_ofNat_of_lt' (show c.toNat < 256 by omega)] at hnat
    exact hc (Char.toNat_inj.mp hnat.symm)
  · exact absurd (encode_beyond (Nat.le_of_not_lt hlt) 37 hb) (by decide)

/-- A percent sign stays that has no two digits after it. -/
theorem decodeBytes_percent {rest : List Char}
    (h : ∀ a b more, rest = a :: b :: more → hexOf? a = none ∨ hexOf? b = none) :
    decodeBytes (37 :: rest.flatMap String.utf8EncodeChar) =
      37 :: decodeBytes (rest.flatMap String.utf8EncodeChar) := by
  refine decodeBytes_cons fun _ x y more htail => ?_
  rcases rest with _ | ⟨a, rest⟩
  · cases htail
  · obtain ⟨x', morea, ha, hvalue, honly⟩ := encode_digit a
    rw [List.flatMap_cons, ha, List.cons_append] at htail
    obtain ⟨rfl, hlater⟩ := List.cons.inj htail
    by_cases hdigit : hexOf? a = none
    · exact Or.inl (hvalue.trans hdigit)
    · rw [honly hdigit, List.nil_append] at hlater
      rcases rest with _ | ⟨b, rest⟩
      · cases hlater
      · obtain ⟨y', moreb, hb, hvalueb, -⟩ := encode_digit b
        rw [List.flatMap_cons, hb, List.cons_append] at hlater
        obtain ⟨rfl, -⟩ := List.cons.inj hlater
        exact Or.inr (hvalueb.trans ((h a b rest rfl).resolve_left hdigit))

theorem encode_percent : String.utf8EncodeChar '%' = [37] := by decide

/-- **The bytes of a text,** read, are those of its pieces. -/
theorem decodeBytes_pieces (l : List Char) :
    decodeBytes (l.flatMap String.utf8EncodeChar) = (pieces l).flatMap Piece.bytes := by
  fun_induction pieces l with
  | case1 a b rest m n hn hm ih =>
    obtain ⟨x, morea, ha, hvaluea, honlya⟩ := encode_digit a
    obtain ⟨y, moreb, hb, hvalueb, honlyb⟩ := encode_digit b
    obtain rfl := honlya (by rw [hm]; nofun)
    obtain rfl := honlyb (by rw [hn]; nofun)
    simp only [List.flatMap_cons, encode_percent, ha, hb, List.cons_append, List.nil_append]
    rw [decodeBytes, hvaluea, hvalueb, hm, hn, ← ih]
    rfl
  | case2 a b rest hnone ih =>
    rw [List.flatMap_cons, encode_percent, List.singleton_append, decodeBytes_percent, ih]
    · rfl
    · intro a' b' more heq
      cases heq
      cases hm : hexOf? a with
      | none => exact Or.inl rfl
      | some m =>
        cases hn : hexOf? b with
        | none => exact Or.inr rfl
        | some n => exact absurd (hnone m n hm hn) id
  | case3 c rest hc ih =>
    by_cases hpercent : c = '%'
    · subst hpercent
      rw [List.flatMap_cons, encode_percent, List.singleton_append, decodeBytes_percent, ih]
      · rfl
      · exact fun a b more heq => absurd (hc a b more rfl heq) id
    · rw [List.flatMap_cons, decodeBytes_append (encode_ne_percent hpercent), ih]
      rfl
  | case4 => rfl

/-- **Reading a text** reads the bytes of its pieces. -/
theorem decode_toList (s : String) : ∃ n, (decode s).toList =
    lossyChars (n + 1) ((pieces s.toList).flatMap Piece.bytes) := by
  refine ⟨(decodeBytes s.toUTF8.toList).length, ?_⟩
  rw [decode, String.toList_ofList, toUTF8_toList, decodeBytes_pieces]

/-! ### Reading what was written -/

theorem pieces_cons {c : Char} (hc : c ≠ '%') (rest : List Char) :
    pieces (c :: rest) = .char c :: pieces rest := by
  rw [pieces]
  exact fun _ _ _ hpercent _ => hc hpercent

/-- A byte is written as its character, or in two digits. -/
theorem encodeByte_cases (plain : Char → Bool) (b : UInt8) :
    (b.toNat < 128 ∧ plain (Char.ofNat b.toNat) = true ∧
        encodeByte plain b = [Char.ofNat b.toNat]) ∨
      ∃ m < 16, ∃ n < 16, 16 * m + n = b.toNat ∧
        encodeByte plain b = ['%', (hexDigit m).toUpper, (hexDigit n).toUpper] := by
  have hbyte : b.toNat < 256 := b.toNat_lt
  unfold encodeByte
  simp only
  split_ifs with h
  · simp only [Bool.and_eq_true, decide_eq_true_eq] at h
    exact Or.inl ⟨h.1, h.2, rfl⟩
  · exact Or.inr ⟨b.toNat / 16 % 16, by omega, b.toNat % 16, by omega, by omega, rfl⟩

/-- The pieces of one byte that was written: one, of this byte. -/
theorem pieces_encodeByte {plain : Char → Bool} (hplain : plain '%' = false) (b : UInt8)
    (rest : List Char) : ∃ p : Piece, p.bytes = [b] ∧
      pieces (encodeByte plain b ++ rest) = p :: pieces rest := by
  have hdigit : ∀ n < 16, hexOf? (hexDigit n).toUpper = some n := by decide
  have hsmall : ∀ n < 128, (Char.ofNat n).toNat = n := by decide
  rcases encodeByte_cases plain b with ⟨hlt, hb, hwritten⟩ | ⟨m, hm, n, hn, hsum, hwritten⟩
  · have hc : Char.ofNat b.toNat ≠ '%' := fun hpercent => by
      rw [hpercent, hplain] at hb
      cases hb
    have hnat : (Char.ofNat b.toNat).toNat = b.toNat := hsmall _ hlt
    rw [hwritten]
    refine ⟨.char (Char.ofNat b.toNat), ?_, pieces_cons hc rest⟩
    rw [Piece.bytes, encode_ascii (by omega), hnat, UInt8.ofNat_toNat]
  · refine ⟨.byte b, rfl, ?_⟩
    rw [hwritten, List.cons_append, List.cons_append, List.cons_append, List.nil_append, pieces,
      hdigit m hm, hdigit n hn]
    simp only [hsum, UInt8.ofNat_toNat]

/-- **What was written** is read. -/
theorem decode_encode {plain : Char → Bool} (hplain : plain '%' = false) (s : String) :
    decode (encode plain s) = s := by
  have hpieces : ∀ bytes : List UInt8,
      (pieces (bytes.flatMap (encodeByte plain))).flatMap Piece.bytes = bytes := by
    intro bytes
    induction bytes with
    | nil => rfl
    | cons b bytes ih =>
      obtain ⟨p, hbytes, hp⟩ := pieces_encodeByte hplain b (bytes.flatMap (encodeByte plain))
      rw [List.flatMap_cons, hp, List.flatMap_cons, hbytes, ih, List.singleton_append]
  obtain ⟨n, hn⟩ := decode_toList (encode plain s)
  rw [encode, String.toList_ofList, hpieces, toUTF8_toList] at hn
  have hchars := lossyChars_encode n s.toList []
  rw [List.append_nil, lossyChars_nil, List.append_nil] at hchars
  rw [encode, toUTF8_toList]
  exact String.toList_inj.mp (hn.trans hchars)

/-- The first character stays, if it is plain and one byte. -/
theorem encode_cons {plain : Char → Bool} {s : String} {c : Char} {rest : List Char}
    (hs : s.toList = c :: rest) (hc : c.toNat < 0x80) (hplain : plain c = true) :
    ∃ rest', (encode plain s).toList = c :: rest' := by
  refine ⟨(rest.flatMap String.utf8EncodeChar).flatMap (encodeByte plain), ?_⟩
  have hbyte : (UInt8.ofNat c.toNat).toNat = c.toNat :=
    UInt8.toNat_ofNat_of_lt' (Nat.lt_trans hc (by decide))
  have hfirst : encodeByte plain (UInt8.ofNat c.toNat) = [c] := by
    rw [encodeByte, hbyte, Char.ofNat_toNat, if_pos (by simp [hplain, hc])]
  rw [encode, String.toList_ofList, toUTF8_toList, hs, List.flatMap_cons, encode_ascii hc,
    List.singleton_append, List.flatMap_cons, hfirst, List.singleton_append]

/-! ### Texts with and without groups -/

/-- A text holds a percent sign with two hexadecimal digits after it. -/
def HasGroup (l : List Char) : Prop :=
  ∃ a b, (hexOf? a).isSome = true ∧ (hexOf? b).isSome = true ∧ ['%', a, b] <:+: l

theorem pieces_of_no_group {l : List Char} (h : ¬ HasGroup l) : pieces l = l.map Piece.char := by
  fun_induction pieces l with
  | case1 a b rest m n hn hm ih =>
    refine absurd ⟨a, b, by rw [hm]; rfl, by rw [hn]; rfl, ?_⟩ h
    exact (List.prefix_append ['%', a, b] rest).isInfix
  | case2 a b rest hnone ih =>
    rw [ih fun ⟨x, y, hx, hy, hxy⟩ => h ⟨x, y, hx, hy, List.infix_cons hxy⟩]
    rfl
  | case3 c rest hc ih =>
    rw [ih fun ⟨x, y, hx, hy, hxy⟩ => h ⟨x, y, hx, hy, List.infix_cons hxy⟩]
    rfl
  | case4 => rfl

theorem length_pieces_le (l : List Char) : (pieces l).length ≤ l.length := by
  fun_induction pieces l <;> simp only [List.length_cons, List.length_nil] at * <;> omega

/-- A group makes three characters one piece. -/
theorem length_pieces_lt {l : List Char} (h : HasGroup l) : (pieces l).length < l.length := by
  fun_induction pieces l with
  | case1 a b rest m n hn hm ih =>
    have hle := length_pieces_le rest
    simp only [List.length_cons]
    omega
  | case2 a b rest hnone ih =>
    obtain ⟨x, y, hx, hy, hxy⟩ := h
    rcases List.infix_cons_iff.mp hxy with hprefix | htail
    · obtain ⟨more, heq⟩ := hprefix
      cases heq
      exact absurd (hnone _ _ (Option.some_get hx).symm (Option.some_get hy).symm) id
    · exact Nat.succ_lt_succ (ih ⟨x, y, hx, hy, htail⟩)
  | case3 c rest hc ih =>
    obtain ⟨x, y, hx, hy, hxy⟩ := h
    rcases List.infix_cons_iff.mp hxy with hprefix | htail
    · obtain ⟨more, heq⟩ := hprefix
      cases heq
      exact absurd (hc x y more rfl rfl) id
    · exact Nat.succ_lt_succ (ih ⟨x, y, hx, hy, htail⟩)
  | case4 =>
    obtain ⟨x, y, -, -, hxy⟩ := h
    cases List.infix_nil.mp hxy

/-! ### How many characters are read -/

theorem leading_cons_ne_none (b : UInt8) (tail : List UInt8) : leading (b :: tail) ≠ none := by
  generalize hbytes : b :: tail = bytes
  fun_cases leading bytes <;> simp_all

/-- Bytes that go on with a character are those of whole pieces, one each. -/
theorem take_pieces {us : List Piece} {k : Nat} (hlength : k ≤ (us.flatMap Piece.bytes).length)
    (hbytes : ∀ b ∈ (us.flatMap Piece.bytes).take k, 0x80 ≤ b.toNat ∧ b.toNat ≤ 0xbf) :
    ∃ used rest, us = used ++ rest ∧ (used.flatMap Piece.bytes).length = k := by
  induction us generalizing k with
  | nil => exact ⟨[], [], rfl, (Nat.le_zero.mp hlength).symm⟩
  | cons u us ih =>
    cases k with
    | zero => exact ⟨[], u :: us, rfl, rfl⟩
    | succ k =>
      cases u with
      | char c =>
        obtain ⟨a, more, ha, -⟩ := encode_digit c
        have hmem : a ∈ (((Piece.char c) :: us).flatMap Piece.bytes).take (k + 1) := by
          rw [List.flatMap_cons, Piece.bytes, ha, List.cons_append, List.take_succ_cons]
          exact List.mem_cons_self
        have hgoesOn := hbytes a hmem
        have hhead := encode_head ha
        omega
      | byte b =>
        rw [List.flatMap_cons, Piece.bytes, List.singleton_append] at hlength hbytes
        obtain ⟨used, rest, hus, hused⟩ := ih (Nat.le_of_succ_le_succ hlength)
          fun x hx => hbytes x (by rw [List.take_succ_cons]; exact List.mem_cons_of_mem b hx)
        refine ⟨.byte b :: used, rest, by rw [hus, List.cons_append], ?_⟩
        rw [List.flatMap_cons, Piece.bytes, List.singleton_append, List.length_cons, hused]

/-- **One step of reading** takes whole pieces, and at least one. -/
theorem leading_pieces {us : List Piece} (hne : us ≠ []) : ∃ used rest r, us = used ++ rest ∧
    used ≠ [] ∧ leading (us.flatMap Piece.bytes) = some (r, (used.flatMap Piece.bytes).length) := by
  rcases us with _ | ⟨u, us⟩
  · exact absurd rfl hne
  · cases u with
    | char c =>
      refine ⟨[.char c], us, .ok c, rfl, by nofun, ?_⟩
      rw [List.flatMap_cons, Piece.bytes, leading_encode, List.flatMap_singleton, Piece.bytes]
    | byte b =>
      cases hlead : leading ((Piece.byte b :: us).flatMap Piece.bytes) with
      | none => exact absurd hlead (leading_cons_ne_none b _)
      | some step =>
        obtain ⟨r, count⟩ := step
        obtain ⟨k, rfl⟩ := Nat.exists_eq_add_of_le' (one_le_count hlead)
        obtain ⟨hlength, hbytes⟩ := leading_tail hlead
        rw [List.flatMap_cons, Piece.bytes, List.singleton_append] at hlength hbytes
        obtain ⟨used, rest, hus, hused⟩ := take_pieces (Nat.le_of_succ_le_succ hlength) hbytes
        refine ⟨.byte b :: used, rest, r, by rw [hus, List.cons_append], by nofun, ?_⟩
        rw [List.flatMap_cons, Piece.bytes, List.singleton_append, List.length_cons, hused]

/-- **No more characters** are read than there are pieces. -/
theorem length_lossyChars_le (n : Nat) (us : List Piece) :
    (lossyChars n (us.flatMap Piece.bytes)).length ≤ us.length := by
  -- By the number of pieces: a step reads one character and takes at least one of them.
  induction hm : us.length using Nat.strongRecOn generalizing n us with
  | ind m ih =>
    subst hm
    cases n with
    | zero => exact Nat.zero_le _
    | succ n =>
      by_cases hne : us = []
      · rw [hne, List.flatMap_nil, lossyChars_nil]
        exact Nat.le_refl 0
      · obtain ⟨used, rest, r, hus, hused, hlead⟩ := leading_pieces hne
        have hpos : 0 < used.length := List.length_pos_iff.mpr hused
        have hlength : us.length = used.length + rest.length := by rw [hus, List.length_append]
        have hdrop : (us.flatMap Piece.bytes).drop (used.flatMap Piece.bytes).length =
            rest.flatMap Piece.bytes := by
          rw [hus, List.flatMap_append, List.drop_left]
        cases r with
        | ok c =>
          have hle := ih rest.length (by omega) (n + 1) rest rfl
          rw [lossyChars_of_char hlead, hdrop, List.length_cons]
          omega
        | error reason =>
          have hle := ih rest.length (by omega) n rest rfl
          rw [lossyChars_of_bad hlead, hdrop, List.length_cons]
          omega

/-! ### Reading texts with and without groups -/

/-- **A text without groups** stays as it is. -/
theorem decode_of_no_group {s : String} (h : ¬ HasGroup s.toList) : decode s = s := by
  obtain ⟨n, hn⟩ := decode_toList s
  have hbytes : (pieces s.toList).flatMap Piece.bytes = s.toList.flatMap String.utf8EncodeChar := by
    rw [pieces_of_no_group h, List.flatMap_map]
    rfl
  have hchars := lossyChars_encode n s.toList []
  rw [List.append_nil, lossyChars_nil, List.append_nil] at hchars
  rw [hbytes, hchars] at hn
  exact String.toList_inj.mp hn

/-- **A text with groups** gets shorter. -/
theorem length_decode_lt {s : String} (h : HasGroup s.toList) :
    (decode s).toList.length < s.toList.length := by
  obtain ⟨n, hn⟩ := decode_toList s
  rw [hn]
  exact Nat.lt_of_le_of_lt (length_lossyChars_le _ _) (length_pieces_lt h)

/-- The first character stays, unless it is a percent sign. -/
theorem decode_cons {s : String} {c : Char} {rest : List Char} (hs : s.toList = c :: rest)
    (hc : c ≠ '%') : ∃ rest', (decode s).toList = c :: rest' := by
  obtain ⟨n, hn⟩ := decode_toList s
  refine ⟨lossyChars (n + 1) ((pieces rest).flatMap Piece.bytes), ?_⟩
  have hfirst := lossyChars_encode n [c] ((pieces rest).flatMap Piece.bytes)
  rw [List.flatMap_singleton, List.singleton_append] at hfirst
  rw [hn, hs, pieces_cons hc, List.flatMap_cons, Piece.bytes, hfirst]

end ItemCatalog.Text.Percent
