import ItemCatalog.Proofs.Text.Utf8
import Mathlib.Data.Option.Basic

/-! # Misreading: a text in a character set that it is not stored in

The bytes of a text in the variable-length form, read in some character set, give another text or
none (`misread`). Character sets with one byte for a character that agree with ASCII
(`ReadsBytes`) keep ASCII where it is (`misread_append_of_ascii`), and they keep a text as a whole
only if it is nothing else (`misread_eq_self_iff`). -/

namespace ItemCatalog.Text

/-- All characters are those of ASCII. -/
def IsAscii (cs : List Char) : Prop :=
  ∀ c ∈ cs, c.toNat < 0x80

instance (cs : List Char) : Decidable (IsAscii cs) :=
  List.decidableBAll (fun c : Char => c.toNat < 0x80) cs

namespace Charset

/-- **What becomes of characters** that are stored in the variable-length form and read in a
character set. -/
def misread (c : Charset) (cs : List Char) : Option (List Char) :=
  (c.decode (String.ofList cs).toUTF8.toList).toOption

theorem misread_eq (c : Charset) (cs : List Char) :
    c.misread cs = (c.decode (cs.flatMap String.utf8EncodeChar)).toOption := by
  rw [misread, toUTF8_toList, String.toList_ofList]

/-! ### The variable-length form itself -/

theorem decodeUtf8_encode (pos : Nat) (cs : List Char) :
    decodeUtf8 pos (cs.flatMap String.utf8EncodeChar) = .ok cs := by
  induction cs generalizing pos with
  | nil => rfl
  | cons c cs ih =>
    rw [List.flatMap_cons, decodeUtf8_eq, leading_encode]
    simp only
    rw [List.drop_left, ih]
    rfl

theorem misread_utf8 (cs : List Char) : (utf8 false).misread cs = some cs := by
  rw [misread_eq, decode, if_neg Bool.false_ne_true, decodeUtf8_encode]
  rfl

/-! ### Single bytes -/

/-- **A character set reads byte by byte** by a rule that agrees with ASCII. -/
structure ReadsBytes (c : Charset) (rule : UInt8 → Option Char) : Prop where
  toOption_decode : ∀ bytes, (c.decode bytes).toOption = bytes.mapM rule
  ascii : ∀ b : UInt8, b.toNat < 0x80 → rule b = some (Char.ofNat b.toNat)

theorem toOption_decodeEach (charset reason : String) (rule : UInt8 → Option Char) (pos : Nat)
    (bytes : List UInt8) :
    ((decodeEach charset reason rule pos bytes).mapError DecodeFault.bytes).toOption =
      bytes.mapM rule := by
  induction bytes generalizing pos with
  | nil => rfl
  | cons b bytes ih =>
    rw [decodeEach, List.mapM_cons, ← ih (pos + 1)]
    cases rule b with
    | none => rfl
    | some c => cases decodeEach charset reason rule (pos + 1) bytes <;> rfl

theorem readsBytes_ascii :
    ascii.ReadsBytes fun b => if b.toNat < 0x80 then some (Char.ofNat b.toNat) else none where
  toOption_decode := toOption_decodeEach _ _ _ _
  ascii := fun _ hb => if_pos hb

theorem readsBytes_latin1 : latin1.ReadsBytes fun b => some (Char.ofNat b.toNat) where
  toOption_decode := fun _ => (List.mapM_pure (m := Option)).symm
  ascii := fun _ _ => rfl

theorem readsBytes_table (high : String) : (table high).ReadsBytes (tableChar high.toList) where
  toOption_decode := toOption_decodeEach _ _ _ _
  ascii := fun _ hb => if_pos hb

/-- Each character has a byte. -/
theorem length_le_length_encode (xs : List Char) :
    xs.length ≤ (xs.flatMap String.utf8EncodeChar).length := by
  induction xs with
  | nil => exact Nat.le_refl 0
  | cons x xs ih =>
    have hx := x.utf8Size_pos
    rw [List.flatMap_cons, List.length_append, List.length_cons, String.length_utf8EncodeChar]
    omega

/-- Only characters of ASCII have no other. -/
theorem ascii_of_length {xs : List Char}
    (h : (xs.flatMap String.utf8EncodeChar).length = xs.length) : IsAscii xs := by
  induction xs with
  | nil => exact nofun
  | cons x xs ih =>
    have hx := x.utf8Size_pos
    have hxs := length_le_length_encode xs
    rw [List.flatMap_cons, List.length_append, List.length_cons, String.length_utf8EncodeChar] at h
    have hone : x.utf8Size = 1 := by omega
    have hascii : x.toNat ≤ 0x7f := UInt32.le_iff_toNat_le.mp (Char.utf8Size_eq_one_iff.mp hone)
    exact List.forall_mem_cons.mpr ⟨by omega, ih (by omega)⟩

section Rule

variable {c : Charset} {rule : UInt8 → Option Char} (hc : c.ReadsBytes rule)

include hc

theorem ReadsBytes.misread_eq (cs : List Char) :
    c.misread cs = (cs.flatMap String.utf8EncodeChar).mapM rule := by
  rw [Charset.misread_eq, hc.toOption_decode]

/-- Characters of ASCII are kept, whatever comes after them. -/
theorem ReadsBytes.misread_append {xs : List Char} (hxs : IsAscii xs)
    (ys : List Char) : c.misread (xs ++ ys) = (c.misread ys).map (xs ++ ·) := by
  rw [hc.misread_eq, hc.misread_eq]
  induction xs with
  | nil => exact (Option.map_id' ..).symm
  | cons x xs ih =>
    obtain ⟨hx, hxs⟩ := List.forall_mem_cons.mp hxs
    have hbyte : (UInt8.ofNat x.toNat).toNat = x.toNat :=
      UInt8.toNat_ofNat_of_lt' (Nat.lt_trans hx (by decide))
    have hrule : rule (UInt8.ofNat x.toNat) = some x := by
      rw [hc.ascii _ (by rw [hbyte]; exact hx), hbyte, Char.ofNat_toNat]
    rw [List.cons_append, List.flatMap_cons, encode_ascii hx, List.singleton_append,
      List.mapM_cons, hrule, ih hxs]
    cases (ys.flatMap String.utf8EncodeChar).mapM rule <;> rfl

/-- There is one character for each byte. -/
theorem ReadsBytes.length_misread {xs ys : List Char} (h : c.misread xs = some ys) :
    ys.length = (xs.flatMap String.utf8EncodeChar).length := by
  rw [hc.misread_eq] at h
  generalize xs.flatMap String.utf8EncodeChar = bytes at h ⊢
  induction bytes generalizing ys with
  | nil =>
    cases h
    rfl
  | cons b bytes ih =>
    rw [List.mapM_cons] at h
    obtain ⟨y, -, h⟩ := Option.bind_eq_some_iff.mp h
    obtain ⟨ys, hys, h⟩ := Option.bind_eq_some_iff.mp h
    cases h
    rw [List.length_cons, List.length_cons, ih hys]

/-- **A text is kept** if it holds nothing but ASCII, and only then. -/
theorem ReadsBytes.misread_eq_self_iff {xs : List Char} :
    c.misread xs = some xs ↔ IsAscii xs := by
  constructor
  · intro h
    exact ascii_of_length (hc.length_misread h).symm
  · intro h
    have hempty : c.misread [] = some [] := by
      rw [hc.misread_eq]
      rfl
    rw [← List.append_nil xs, hc.misread_append h, hempty]
    rfl

end Rule

end Charset

end ItemCatalog.Text
