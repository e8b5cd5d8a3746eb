import ItemCatalog.Value.Basic
import Mathlib.Data.List.Nodup

/-! # Entries: mappings under texts

What is under a text in a mapping that was put together: `get?_put` for one more entry, `get?_merge`
for the entries of a second mapping, which win, and `get?_extend` for those of a second mapping that
are missing in the first. -/

namespace ItemCatalog

/-- A key is the same as a text if it is that text. -/
theorem Scalar.same_text (a : Scalar) (s : String) : a.same (.text s) = (a == .text s) := by
  cases a <;> simp [Scalar.same, Scalar.asInt?]

/-- A text is the same as a key if it is that key. -/
theorem Scalar.text_same (s : String) (a : Scalar) :
    (Scalar.text s).same a = (Scalar.text s == a) := by
  cases a <;> simp [Scalar.same, Scalar.asInt?]

theorem Scalar.same_text_iff {a : Scalar} {s : String} :
    a.same (.text s) = true ↔ a = .text s := by
  rw [Scalar.same_text, beq_iff_eq]

/-- The entries of texts under texts. -/
def textEntries (fields : List (String × String)) : Entries :=
  fields.map fun f => (.text f.1, .text f.2)

namespace Entries

@[simp] theorem get?_nil (key : String) : get? [] key = none := rfl

theorem get?_cons (k : Scalar) (v : Value) (rest : Entries) (key : String) :
    get? ((k, v) :: rest) key = if k = .text key then some v else get? rest key := by
  simp only [get?, find?, Scalar.same_text_iff]

theorem get?_append (entries more : Entries) (key : String) :
    get? (entries ++ more) key = (entries.get? key).or (more.get? key) := by
  induction entries with
  | nil => rfl
  | cons e rest ih =>
    obtain ⟨k, v⟩ := e
    rw [List.cons_append, get?_cons, get?_cons, ih]
    split_ifs <;> rfl

theorem get?_put_scalar (entries : Entries) (key : Scalar) (v : Value) (other : String) :
    get? (entries.put key v) other = if key = .text other then some v else entries.get? other := by
  induction entries with
  | nil => rw [put, get?_cons]
  | cons e rest ih =>
    obtain ⟨k, w⟩ := e
    rw [put]
    by_cases hk : k.same key = true
    · rw [if_pos hk, get?_cons, get?_cons]
      by_cases hother : k = .text other
      · have hkey : key = .text other := by
          rw [hother, Scalar.text_same, beq_iff_eq] at hk
          exact hk.symm
        rw [if_pos hother, if_pos hkey]
      · have hkey : key ≠ .text other := fun h => hother (Scalar.same_text_iff.mp (h ▸ hk))
        rw [if_neg hother, if_neg hkey, if_neg hother]
    · rw [if_neg hk, get?_cons, get?_cons, ih]
      by_cases hkey : key = .text other
      · have hother : k ≠ .text other := fun h =>
          hk (hkey ▸ Scalar.same_text_iff.mpr h)
        rw [if_neg hother, if_pos hkey, if_pos hkey]
      · rw [if_neg hkey, if_neg hkey]

theorem get?_put (entries : Entries) (key : String) (v : Value) (other : String) :
    get? (entries.put (.text key) v) other =
      if key = other then some v else entries.get? other := by
  rw [get?_put_scalar]
  simp only [Scalar.text.injEq]

/-- **Under a text in merged mappings** is the last entry of the second one under this text, or what
the first one has there. -/
theorem get?_merge (entries more : Entries) (key : String) :
    get? (entries.merge more) key = (get? more.reverse key).or (get? entries key) := by
  induction more generalizing entries with
  | nil => rfl
  | cons e rest ih =>
    obtain ⟨k, v⟩ := e
    have hstep : entries.merge ((k, v) :: rest) = (entries.put k v).merge rest := rfl
    rw [hstep, ih, get?_put_scalar, List.reverse_cons, get?_append, Option.or_assoc, get?_cons]
    split_ifs <;> rfl

theorem get?_filter_text {entries : Entries} {p : Scalar → Bool} {key : String}
    (h : p (.text key) = true) :
    get? (entries.filter fun e => p e.1) key = entries.get? key := by
  induction entries with
  | nil => rfl
  | cons e rest ih =>
    obtain ⟨k, v⟩ := e
    rw [List.filter_cons, get?_cons]
    by_cases hk : k = .text key
    · rw [if_pos (by rw [hk, h]), get?_cons, if_pos hk, if_pos hk]
    · rw [if_neg hk]
      split_ifs
      · rw [get?_cons, if_neg hk, ih]
      · exact ih

theorem get?_filter_text_of_not {entries : Entries} {p : Scalar → Bool} {key : String}
    (h : p (.text key) = false) : get? (entries.filter fun e => p e.1) key = none := by
  induction entries with
  | nil => rfl
  | cons e rest ih =>
    obtain ⟨k, v⟩ := e
    rw [List.filter_cons]
    split_ifs with hk
    · have hne : k ≠ .text key := by
        rintro rfl
        cases h.symm.trans hk
      rw [get?_cons, if_neg hne, ih]
    · exact ih

/-- The mapping with those entries of a second one at its end that are under keys which it lacks. -/
def extend (entries more : Entries) : Entries :=
  entries ++ more.filter fun e => (entries.find? e.1).isNone

/-- **Under a text in an extended mapping** is what it had there before, or what the second mapping
has there. -/
theorem get?_extend (entries more : Entries) (key : String) :
    get? (entries.extend more) key = (entries.get? key).or (more.get? key) := by
  rw [extend, get?_append]
  cases h : entries.get? key with
  | some v => rfl
  | none =>
    have hlacks : (entries.find? (.text key)).isNone = true := by rw [← get?, h]; rfl
    rw [get?_filter_text (p := fun k => (entries.find? k).isNone) hlacks]

theorem get?_textEntries (fields : List (String × String)) (key : String) :
    get? (textEntries fields) key = (fields.lookup key).map Value.text := by
  induction fields with
  | nil => rfl
  | cons f rest ih =>
    obtain ⟨k, s⟩ := f
    show get? ((.text k, .text s) :: textEntries rest) key = _
    rw [get?_cons, List.lookup_cons, ih]
    by_cases hk : key = k
    · rw [if_pos (congrArg Scalar.text hk.symm), beq_iff_eq.mpr hk]
      rfl
    · rw [if_neg (fun h => hk (Scalar.text.inj h).symm), beq_eq_false_iff_ne.mpr hk]

end Entries

end ItemCatalog
