import ItemCatalog.Document.Structured
import ItemCatalog.Proofs.Item.Validity
import ItemCatalog.Proofs.Value.Keys

/-! # Building: from fields to a labelled item

Both formats build an item from fields and label it with the source of the document. The item is one
that the fields describe, whatever they say about a source (`buildItem_eq_ok_iff`). What comes out
of fields with a symbolic name depends on nothing but what is under the keys of an item
(`buildItem_congr`), however the readers word what is wrong. The fields of an entry, over the
defaults of its section, hold under such a key the last value that the entry has there, or else the
default (`get?_entryFields`). -/

namespace ItemCatalog.Document

/-! ### Items -/

section Label

variable (fields : Entries) (source : Option String)

theorem get?_labelled_source :
    (labelled fields source).get? "source" = some (sourceValue source) := by
  rw [labelled, Entries.get?_put, if_pos rfl]

theorem get?_labelled {key : String} (h : key ∈ itemKeys) :
    (labelled fields source).get? key = fields.get? key := by
  have hkey : "source" ≠ key := by
    rintro rfl
    exact absurd h (by decide)
  rw [labelled, Entries.get?_put, if_neg hkey]

theorem isNamed_labelled : IsNamed (labelled fields source) ↔ IsNamed fields := by
  rw [IsNamed, IsNamed, get?_labelled _ _ (by decide), get?_labelled _ _ (by decide)]

end Label

theorem spellsOptional_sourceValue {source o : Option String} :
    SpellsOptional (some (sourceValue source)) o ↔ o = source := by
  cases source with
  | none =>
    constructor
    · intro h
      cases h with
      | null => rfl
      | spelled h => cases h
    · rintro rfl
      exact .null
  | some s =>
    constructor
    · intro h
      cases h with
      | spelled h =>
        cases h
        rfl
    · rintro rfl
      exact .spelled (.text s)

/-- **An item is built** if the fields describe it, and its source is the one it is labelled
with. -/
theorem buildItem_eq_ok_iff {fields : Entries} {source : Option String} {place : String}
    {w : Wording} {i : Item} :
    buildItem w fields source place = .ok i ↔ Describes fields i ∧ i.source = source := by
  have hvalid : Item.validate (labelled fields source) = .ok i ↔
      Describes fields i ∧ i.source = source := by
    rw [validate_eq_ok_iff, get?_labelled_source, spellsOptional_sourceValue,
      describes_congr fun key hkey => get?_labelled fields source hkey]
  rw [← hvalid, buildItem]
  cases Item.validate (labelled fields source) with
  | error vs => exact ⟨nofun, nofun⟩
  | ok j => exact ⟨fun h => congrArg _ (Except.ok.inj h), fun h => congrArg _ (Except.ok.inj h)⟩

section Congruence

variable {fields fields' : Entries} (h : ∀ key ∈ itemKeys, fields.get? key = fields'.get? key)
  (source : Option String)

include h

theorem get?_labelled_congr : ∀ key ∈ "source" :: itemKeys,
    (labelled fields source).get? key = (labelled fields' source).get? key := by
  intro key hkey
  rcases List.mem_cons.mp hkey with rfl | hkey
  · rw [get?_labelled_source, get?_labelled_source]
  · rw [get?_labelled fields source hkey, get?_labelled fields' source hkey, h key hkey]

/-- **What is built** from fields with a symbolic name depends on what is under the keys of an item
only. -/
theorem buildItem_congr (hnamed : IsNamed fields) (place : String) (w : Wording) :
    buildItem w fields source place = buildItem w fields' source place := by
  rw [buildItem, buildItem, validate_congr (get?_labelled_congr h source)
    ((isNamed_labelled fields source).mpr hnamed)]

end Congruence

theorem cons_eq_ok_iff {α : Type} {r : Except Fault α} {rs : Except Fault (List α)} {xs : List α} :
    (do
      let a ← r
      return a :: (← rs)) = .ok xs ↔ ∃ a as, r = .ok a ∧ rs = .ok as ∧ xs = a :: as := by
  rcases r with e | a
  · exact ⟨nofun, nofun⟩
  rcases rs with e | as
  · exact ⟨nofun, nofun⟩
  constructor
  · intro h
    exact ⟨a, as, rfl, rfl, (Except.ok.inj h).symm⟩
  · rintro ⟨b, bs, hb, hbs, rfl⟩
    cases hb
    cases hbs
    rfl

/-! ### Entries of a section -/

/-- **Under a key of an item** an entry over defaults has its own last value, or the default. -/
theorem get?_entryFields (defaults fields : Entries) {key : String} (h : key ∈ itemKeys) :
    Entries.get? (entryFields defaults fields) key =
      (Entries.get? fields.reverse key).or (defaults.get? key) := by
  have hkept : (!(Scalar.text key).same (.text "items")) = true := by
    rw [Scalar.same_text]
    simp only [Bool.not_eq_true', beq_eq_false_iff_ne, ne_eq, Scalar.text.injEq]
    rintro rfl
    exact absurd h (by decide)
  rw [entryFields, Entries.get?_merge, ← List.filter_reverse,
    Entries.get?_filter_text (p := fun k => !k.same (.text "items")) hkept]

theorem buildEntries_cons {defaults fields : Entries} {source : Option String} {index : Nat}
    {entry : Value} {w : Wording} (hmap : entry.asMap? = some fields) (rest : List Value) :
    buildEntries w defaults source index (entry :: rest) = (do
      let item ← buildItem w (entryFields defaults fields) source s!"#{index}"
      return item :: (← buildEntries w defaults source (index + 1) rest)) := by
  rw [buildEntries, hmap]

/-! ### Words decide nothing -/

section Words

variable (w w' : Wording) (source : Option String)

theorem buildEntries_eq_ok_congr (defaults : Entries) (index : Nat) (entries : List Value)
    (items : List Item) : buildEntries w defaults source index entries = .ok items ↔
      buildEntries w' defaults source index entries = .ok items := by
  induction entries generalizing index items with
  | nil => exact Iff.rfl
  | cons entry rest ih =>
    cases hmap : entry.asMap? with
    | none => rw [buildEntries, buildEntries, hmap]
    | some fields =>
      rw [buildEntries_cons hmap, buildEntries_cons hmap, cons_eq_ok_iff, cons_eq_ok_iff]
      simp only [buildItem_eq_ok_iff, ih]

theorem itemsOfValue_eq_ok_congr (data : Value) (items : List Item) :
    itemsOfValue w data source = .ok items ↔ itemsOfValue w' data source = .ok items := by
  rw [itemsOfValue, itemsOfValue]
  split
  · exact Iff.rfl
  · split
    · exact Iff.rfl
    · rename_i whole _ _ sec _
      cases sectionEntries sec whole source with
      | error e => exact Iff.rfl
      | ok entries => exact buildEntries_eq_ok_congr w w' source _ 0 entries items

/-- **Which items a text gives** does not depend on how the readers word what is wrong. -/
theorem structuredItems_eq_ok_congr (text : String) (items : List Item) :
    structuredItems text source w = .ok items ↔ structuredItems text source w' = .ok items := by
  rw [structuredItems, structuredItems]
  rcases Yaml.load text with e | data
  · cases e <;> exact iff_of_false nofun nofun
  · exact itemsOfValue_eq_ok_congr w w' source data items

end Words

end ItemCatalog.Document
