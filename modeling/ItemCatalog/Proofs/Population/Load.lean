import ItemCatalog.Population.Load
import ItemCatalog.Proofs.Catalog.Storing
import ItemCatalog.Proofs.Document.Mirror

/-! # Loads: what one text leaves in a catalog

A load either takes the items of a structured text, or a legacy document, or nothing. Which of these
it is, is a function of the address, the mode and the text (`structured?`, `legacy?`), and so is
what is left in the catalog if nothing is loaded (`remains`):

* `loadInitial_of_text`, `loadInitial_of_failed_fetch`: the whole load by these functions;
* `failed_load_unchanged_or_empty_iff`: a failed load leaves the catalog as it was or empty, except
  after a structured text in which an identity comes twice;
* `loaded_items_eq_declared_iff`: a successful load leaves the items of its source, except after a
  legacy document in which an identity comes twice.

None of this depends on how the readers word what is wrong with a text. -/

namespace ItemCatalog.Population

open Document Catalog

variable {w : Wording}

section Text

variable (uri : String) (mode : PopulateMode)

/-! ### What a text holds -/

/-- The items of a structured text, if one may be tried and can be read. -/
def readItems? (text : String) : Option (List Item) :=
  if mode.allowsYaml then (structuredItems text (some uri)).toOption else none

/-- The items of a structured text that loads. -/
def structured? (text : String) : Option (List Item) :=
  (readItems? uri mode text).filter fun items => (items.map Item.id).Nodup

/-- The legacy document that loads, if no structured text does. -/
def legacy? (text : String) : Option LegacyDocument :=
  if (structured? uri mode text).isNone && mode.allowsXml then
    (legacyDocument text (some uri)).1.toOption
  else none

/-- What is left in a catalog if nothing is loaded: what it held if no structured text was tried,
and else the items of the text that could be added. -/
def remains (c : Catalog) (text : String) : Catalog :=
  if mode.allowsYaml then ⟨newItems [] ((readItems? uri mode text).getD []), none⟩ else c

/-- What a load leaves in a catalog. -/
def afterLoad (c : Catalog) (text : String) : Catalog :=
  match structured? uri mode text, legacy? uri mode text with
  | some items, _ => ⟨items, none⟩
  | none, some d => ofDocument d
  | none, none => remains uri mode c text

/-- The items that a load leaves in a catalog if something loads: those of a structured text, or
those of a legacy document with every identity kept once. -/
def loaded? (text : String) : Option (List Item) :=
  (structured? uri mode text).or ((legacy? uri mode text).map fun d => keptOnce d.items)

end Text

/-! ### The attempts -/

/-- A load on its way, apart from its problem and what was said. -/
structure Load.Holds (l : Load) (uri : String) (mode : PopulateMode) (items : Option (List Item))
    (document : Option LegacyDocument) (catalog : Catalog) : Prop where
  uri_eq : l.result.uri = uri
  mode_eq : l.result.mode = mode
  items_eq : l.result.items = items
  document_eq : l.result.document = document
  catalog_eq : l.catalog = catalog

section Attempts

variable {uri : String} {mode : PopulateMode} {l : Load} {c : Catalog} (text : String)

theorem readItems?_eq (hy : mode.allowsYaml = true) :
    readItems? uri mode text = (structuredItems text (some uri)).toOption := if_pos hy

theorem readItems?_allowsYaml {items : List Item} (h : readItems? uri mode text = some items) :
    mode.allowsYaml = true := by
  by_contra hy
  rw [readItems?, if_neg hy] at h
  cases h

theorem structured?_eq_some_iff {items : List Item} : structured? uri mode text = some items ↔
    readItems? uri mode text = some items ∧ (items.map Item.id).Nodup := by
  rw [structured?, Option.filter_eq_some_iff, decide_eq_true_eq]

theorem toOption_congr {α : Type} {r r' : Except Fault α} (h : ∀ a, r = .ok a ↔ r' = .ok a) :
    r.toOption = r'.toOption := by
  refine Option.ext fun a => ?_
  have hsome : ∀ r : Except Fault α, r.toOption = some a ↔ r = .ok a := by
    rintro (e | b)
    · exact iff_of_false nofun nofun
    · exact ⟨fun h => congrArg _ (Option.some.inj h), fun h => congrArg _ (Except.ok.inj h)⟩
  rw [hsome, hsome, h]

/-- A structured text is tried in an emptied catalog, whatever that held. -/
theorem tryStructured_holds (hy : mode.allowsYaml = true) (hl : l.Holds uri mode none none c) :
    (l.tryStructured w text).Holds uri mode (structured? uri mode text) none
      (remains uri mode c text) := by
  obtain ⟨rfl, rfl, hi, hd, rfl⟩ := hl
  rw [structured?, remains, if_pos hy, readItems?_eq text hy,
    toOption_congr (structuredItems_eq_ok_congr .brief w (some l.result.uri) text)]
  unfold Load.tryStructured
  cases hs : structuredItems text (some l.result.uri) w with
  | error e =>
    have hadd : Catalog.empty.addItems text false (some l.result.uri) w = (.error e, .empty) := by
      rw [addItems, hs]
    rw [hadd]
    exact ⟨rfl, rfl, hi, hd, rfl⟩
  | ok items =>
    have hadd : Catalog.empty.addItems text false (some l.result.uri) w =
        Catalog.empty.addBatch items false := by
      rw [addItems, hs]
    rw [hadd]
    by_cases hnd : (items.map Item.id).Nodup
    · rw [addBatch_empty_nodup hnd]
      refine ⟨rfl, rfl, ?_, hd, ?_⟩
      · simp [Except.toOption, Option.filter, hnd]
      · simp [Except.toOption, (newItems_nil_eq_self_iff items).mpr hnd]
    · obtain ⟨e, he⟩ := addBatch_empty_repeated hnd
      rw [he]
      refine ⟨rfl, rfl, ?_, hd, rfl⟩
      simp [LoadResult.note, hi, Except.toOption, Option.filter, hnd]

/-- A legacy document replaces what a catalog held; a text that is none leaves it. -/
theorem tryLegacy_holds {items : Option (List Item)} (hl : l.Holds uri mode items none c) :
    (l.tryLegacy w text).Holds uri mode items (legacyDocument text (some uri)).1.toOption
      (((legacyDocument text (some uri)).1.toOption.map ofDocument).getD c) := by
  obtain ⟨rfl, rfl, rfl, hd, rfl⟩ := hl
  rw [toOption_congr (legacyDocument_eq_ok_congr .brief w text (some l.result.uri))]
  unfold Load.tryLegacy
  rcases legacyDocument text (some l.result.uri) w with ⟨e | d, log⟩
  · exact ⟨rfl, rfl, rfl, hd, rfl⟩
  · exact ⟨rfl, rfl, rfl, rfl, rfl⟩

/-- What is left of a text that loads is all of it. -/
theorem remains_of_structured {items : List Item} (h : structured? uri mode text = some items) :
    remains uri mode c text = ⟨items, none⟩ := by
  obtain ⟨hr, hnd⟩ := (structured?_eq_some_iff text).mp h
  rw [remains, if_pos (readItems?_allowsYaml text hr), hr, Option.getD_some,
    (newItems_nil_eq_self_iff items).mpr hnd]

theorem firstAttempt_holds (hl : l.Holds uri mode none none c) :
    (if l.result.mode.allowsYaml then l.tryStructured w text else l).Holds uri mode
      (structured? uri mode text) none (remains uri mode c text) := by
  rw [hl.mode_eq]
  by_cases hy : mode.allowsYaml = true
  · rw [if_pos hy]
    exact tryStructured_holds text hy hl
  · rw [if_neg hy, structured?, readItems?, if_neg hy, remains, if_neg hy]
    exact hl

/-- **All attempts** on a text. -/
theorem attempts_holds (hl : l.Holds uri mode none none c) :
    (l.attempts w text).Holds uri mode (structured? uri mode text) (legacy? uri mode text)
      (afterLoad uri mode c text) := by
  have h := firstAttempt_holds (w := w) text hl
  simp only [Load.attempts, h.items_eq, h.mode_eq]
  rw [legacy?, afterLoad, legacy?]
  cases hs : structured? uri mode text with
  | some items =>
    rw [hs, remains_of_structured text hs] at h
    simpa using h
  | none =>
    rw [hs] at h
    by_cases hx : mode.allowsXml = true
    · simp only [hx, Option.isNone_none, Bool.and_self, if_true]
      have hl := tryLegacy_holds (w := w) text h
      cases hd : (legacyDocument text (some uri)).1.toOption <;> rw [hd] at hl <;> exact hl
    · simpa [hx] using h

end Attempts

/-! ### The whole load -/

section Whole

variable {uri : String} {mode : PopulateMode} {c : Catalog} {content : Except Fault String}
  {r : LoadResult}

/-- **The load of a text.** -/
theorem loadInitial_of_text (c : Catalog) (uri : String) (mode : PopulateMode) (text : String)
    (w : Wording) :
    ∃ r log, loadInitial c uri mode (.ok text) w = (.ok r, afterLoad uri mode c text, log) ∧
      r.items = structured? uri mode text ∧ r.document = legacy? uri mode text := by
  let start : Load := { result := { uri, mode }, catalog := c }
  have h := attempts_holds (w := w) text (show start.Holds uri mode none none c from
    ⟨rfl, rfl, rfl, rfl, rfl⟩)
  have hload : loadInitial c uri mode (.ok text) w = (.ok (start.attempts w text).result,
      (start.attempts w text).catalog, (start.attempts w text).finish.log) := rfl
  exact ⟨_, _, by rw [hload, h.catalog_eq], h.items_eq, h.document_eq⟩

theorem loadInitial_catalog (text : String) :
    (loadInitial c uri mode (.ok text) w).2.1 = afterLoad uri mode c text := by
  obtain ⟨r, log, hload, -, -⟩ := loadInitial_of_text c uri mode text w
  rw [hload]

/-- **The load of what could not be fetched:** it ends with a fault that no stage may record, and
else with that fault as the problem. -/
theorem loadInitial_of_failed_fetch (c : Catalog) (uri : String) (mode : PopulateMode)
    (e : Fault) (w : Wording) : ∃ log, loadInitial c uri mode (.error e) w =
      (if e.isFatal then .error e else .ok { uri, mode, problem := some e }, c, log) := by
  unfold loadInitial
  by_cases he : e.isFatal = true
  · exact ⟨_, by simp only [he, if_true]; rfl⟩
  · exact ⟨_, by simp only [he]; rfl⟩

theorem succeeded_eq (r : LoadResult) :
    r.succeeded = (r.items.isSome || r.document.isSome) := rfl

/-- **What a load leaves** in a catalog if something loads: neither a fault nor an item of
before. -/
theorem loadInitial_of_loaded {text : String} {items : List Item} (c : Catalog)
    (h : loaded? uri mode text = some items) :
    (∃ r, (loadInitial c uri mode (.ok text) w).1 = .ok r ∧ r.succeeded = true) ∧
      (loadInitial c uri mode (.ok text) w).2.1.items = items ∧ (items.map Item.id).Nodup := by
  obtain ⟨r, log, hload, hstructured, hlegacy⟩ := loadInitial_of_text c uri mode text w
  rw [hload, afterLoad]
  rw [loaded?] at h
  have hsucceeded : r.succeeded =
      ((structured? uri mode text).isSome || (legacy? uri mode text).isSome) := by
    rw [succeeded_eq, hstructured, hlegacy]
  cases hs : structured? uri mode text with
  | some l =>
    rw [hs, Option.some_or] at h
    obtain rfl := Option.some.inj h
    exact ⟨⟨r, rfl, by rw [hsucceeded, hs]; rfl⟩, rfl, ((structured?_eq_some_iff text).mp hs).2⟩
  | none =>
    rw [hs, Option.none_or, Option.map_eq_some_iff] at h
    obtain ⟨d, hd, rfl⟩ := h
    rw [hd]
    exact ⟨⟨r, rfl, by rw [hsucceeded, hd]; exact Bool.or_true _⟩, ofDocument_items d,
      keptOnce_nodup d.items⟩

/-! ### Failed loads -/

/-- The items of a content that can be read as a structured text in which an identity comes
twice. -/
def repeated? (uri : String) (mode : PopulateMode) (content : Except Fault String) :
    Option (List Item) :=
  content.toOption.bind fun text =>
    (readItems? uri mode text).filter fun items => ¬ (items.map Item.id).Nodup

theorem repeated?_eq_some_iff {text : String} {items : List Item} :
    repeated? uri mode (.ok text) = some items ↔
      readItems? uri mode text = some items ∧ ¬ (items.map Item.id).Nodup := by
  rw [repeated?, Except.toOption, Option.bind_some, Option.filter_eq_some_iff, decide_eq_true_eq]

theorem repeated?_not_nodup {items : List Item} (h : repeated? uri mode content = some items) :
    ¬ (items.map Item.id).Nodup := by
  cases content with
  | error e => cases h
  | ok text => exact (repeated?_eq_some_iff.mp h).2

theorem newItems_ne_nil {items : List Item} (h : ¬ (items.map Item.id).Nodup) :
    newItems [] items ≠ [] := by
  cases items with
  | nil => simp at h
  | cons a rest => rw [newItems, if_neg List.not_mem_nil]; exact List.cons_ne_nil _ _

/-- After a repeated identity, what could be added stays. -/
theorem afterLoad_of_repeated {text : String} {items : List Item}
    (hrep : repeated? uri mode (.ok text) = some items) (hs : structured? uri mode text = none)
    (hl : legacy? uri mode text = none) :
    afterLoad uri mode c text = ⟨newItems [] items, none⟩ := by
  have hread := (repeated?_eq_some_iff.mp hrep).1
  rw [afterLoad, hs, hl, remains, if_pos (readItems?_allowsYaml text hread), hread,
    Option.getD_some]

/-- Without a repeated identity, a failed load empties the catalog or leaves it. -/
theorem afterLoad_of_not_repeated {text : String} (hrep : repeated? uri mode (.ok text) = none)
    (hs : structured? uri mode text = none) (hl : legacy? uri mode text = none) :
    afterLoad uri mode c text = c ∨ afterLoad uri mode c text = Catalog.empty := by
  rw [afterLoad, hs, hl, remains]
  split_ifs with hy
  · right
    cases hread : readItems? uri mode text with
    | none => rfl
    | some items =>
      -- A list that is read is either taken as a whole or repeats an identity.
      by_cases hnd : (items.map Item.id).Nodup
      · rw [(structured?_eq_some_iff text).mpr ⟨hread, hnd⟩] at hs
        cases hs
      · rw [repeated?_eq_some_iff.mpr ⟨hread, hnd⟩] at hrep
        cases hrep
  · exact Or.inl rfl

/-- What a failed load leaves in a catalog. -/
theorem failed_load_cases (h : (loadInitial c uri mode content w).1 = .ok r)
    (hr : r.succeeded = false) :
    (∃ items, repeated? uri mode content = some items ∧
      (loadInitial c uri mode content w).2.1 = ⟨newItems [] items, none⟩) ∨
    (repeated? uri mode content = none ∧ ((loadInitial c uri mode content w).2.1 = c ∨
      (loadInitial c uri mode content w).2.1 = Catalog.empty)) := by
  cases content with
  | error e =>
    obtain ⟨log, hload⟩ := loadInitial_of_failed_fetch c uri mode e w
    exact Or.inr ⟨rfl, Or.inl (by rw [hload])⟩
  | ok text =>
    obtain ⟨r', log, hload, hi, hd⟩ := loadInitial_of_text c uri mode text w
    rw [hload] at h ⊢
    obtain rfl : r' = r := Except.ok.inj h
    rw [succeeded_eq, hi, hd, Bool.or_eq_false_iff, Option.isSome_eq_false_iff,
      Option.isSome_eq_false_iff, Option.isNone_iff_eq_none, Option.isNone_iff_eq_none] at hr
    obtain ⟨hs, hl⟩ := hr
    cases hrep : repeated? uri mode (.ok text) with
    | some items => exact Or.inl ⟨items, rfl, afterLoad_of_repeated hrep hs hl⟩
    | none => exact Or.inr ⟨rfl, afterLoad_of_not_repeated hrep hs hl⟩

/-- **A failed load leaves the catalog as it was or empty**, except after a structured text in which
an identity comes twice: then the catalog is left with the items that could be added, at least
one. -/
theorem failed_load_unchanged_or_empty_iff (h : (loadInitial c uri mode content w).1 = .ok r)
    (hr : r.succeeded = false) :
    (((loadInitial c uri mode content w).2.1 = c ∨
        (loadInitial c uri mode content w).2.1 = Catalog.empty) ↔
      ∀ items, repeated? uri mode content = some items → c = ⟨newItems [] items, none⟩) ∧
    ∀ items, repeated? uri mode content = some items →
      (loadInitial c uri mode content w).2.1 = ⟨newItems [] items, none⟩ ∧
        newItems [] items ≠ [] := by
  rcases failed_load_cases h hr with ⟨items, hrep, hc⟩ | ⟨hrep, hc⟩
  · have hne : newItems [] items ≠ [] := newItems_ne_nil (repeated?_not_nodup hrep)
    refine ⟨⟨fun hor items' hrep' => ?_, fun hall => Or.inl ?_⟩, fun items' hrep' => ?_⟩
    · obtain rfl : items = items' := Option.some.inj (hrep.symm.trans hrep')
      rcases hor with hor | hor
      · rw [← hc, hor]
      · exact absurd (congrArg Catalog.items (hc.symm.trans hor)) hne
    · rw [hc, hall items hrep]
    · obtain rfl : items = items' := Option.some.inj (hrep.symm.trans hrep')
      exact ⟨hc, hne⟩
  · refine ⟨⟨fun _ items' hrep' => ?_, fun _ => hc⟩, fun items' hrep' => ?_⟩ <;>
    · rw [hrep] at hrep'
      cases hrep'

/-- A text that is no catalog empties the catalog. -/
theorem failed_load_of_other_text :
    ∃ r, (loadInitial ⟨[], some "old"⟩ "mem://a" .yaml (.ok "other: 1")).1 = .ok r ∧
      r.succeeded = false ∧
      ((loadInitial ⟨[], some "old"⟩ "mem://a" .yaml (.ok "other: 1")).2.1 = ⟨[], some "old"⟩ ∨
        (loadInitial ⟨[], some "old"⟩ "mem://a" .yaml (.ok "other: 1")).2.1 = Catalog.empty) := by
  obtain ⟨r, log, hload, hi, hd⟩ :=
    loadInitial_of_text ⟨[], some "old"⟩ "mem://a" .yaml "other: 1" .brief
  have h : (loadInitial ⟨[], some "old"⟩ "mem://a" .yaml (.ok "other: 1")).1 = .ok r := by
    rw [hload]
  have hr : r.succeeded = false := by
    rw [succeeded_eq, hi, hd]
    decide +kernel
  have hrep : (repeated? "mem://a" .yaml (.ok "other: 1")).isSome = false := by decide +kernel
  refine ⟨r, h, hr, (failed_load_unchanged_or_empty_iff h hr).1.mpr fun items hitems => ?_⟩
  rw [hitems] at hrep
  cases hrep

/-- A structured text with the same item twice. -/
def sameTwice : String := "catalog: \x7bitems: [\x7bid: a\x7d, \x7bid: a\x7d]\x7d"

/-- The text that repeats an identity fails to load and leaves the first of its items. -/
theorem failed_load_leaves_part :
    ∃ r, (loadInitial (ofItems [{symbolicName := "old"}]) "mem://a" .yaml (.ok sameTwice)).1 =
        .ok r ∧ r.succeeded = false ∧
      (loadInitial (ofItems [{symbolicName := "old"}]) "mem://a" .yaml (.ok sameTwice)).2.1 ≠
        ofItems [{symbolicName := "old"}] ∧
      (loadInitial (ofItems [{symbolicName := "old"}]) "mem://a" .yaml (.ok sameTwice)).2.1 ≠
        Catalog.empty := by
  obtain ⟨r, log, hload, hi, hd⟩ :=
    loadInitial_of_text (ofItems [{symbolicName := "old"}]) "mem://a" .yaml sameTwice .brief
  have hids : (afterLoad "mem://a" .yaml (ofItems [{symbolicName := "old"}]) sameTwice).ids =
      ["a:0.0.0-SNAPSHOT"] := by decide +kernel
  rw [loadInitial_catalog]
  refine ⟨r, by rw [hload], ?_, fun hc => ?_, fun hc => ?_⟩
  · rw [succeeded_eq, hi, hd]
    decide +kernel
  · rw [hc] at hids
    exact absurd hids (by decide +kernel)
  · rw [hc] at hids
    cases hids

/-! ### Successful loads -/

/-- What the source of a load declares. -/
def LoadResult.declared (r : LoadResult) : List Item :=
  r.items.getD ((r.document.map LegacyDocument.items).getD [])

theorem structured?_nodup {text : String} {items : List Item}
    (h : structured? uri mode text = some items) : (items.map Item.id).Nodup :=
  ((structured?_eq_some_iff text).mp h).2

/-- What a successful load leaves in a catalog. -/
theorem loaded_items (h : (loadInitial c uri mode content w).1 = .ok r) (hr : r.succeeded = true) :
    (loadInitial c uri mode content w).2.1.items = keptOnce r.declared ∧
      (r.items.isSome = true → (r.declared.map Item.id).Nodup) := by
  cases content with
  | error e =>
    obtain ⟨log, hload⟩ := loadInitial_of_failed_fetch c uri mode e w
    rw [hload] at h
    split_ifs at h with he
    obtain rfl := Except.ok.inj h
    cases hr
  | ok text =>
    obtain ⟨r', log, hload, hi, hd⟩ := loadInitial_of_text c uri mode text w
    rw [hload] at h ⊢
    obtain rfl : r' = r := Except.ok.inj h
    rw [succeeded_eq, hi, hd] at hr
    rw [LoadResult.declared, hi, hd, afterLoad]
    cases hs : structured? uri mode text with
    | some items =>
      have hnd := structured?_nodup hs
      exact ⟨((keptOnce_eq_self_iff items).mpr hnd).symm, fun _ => hnd⟩
    | none =>
      refine ⟨?_, fun hsome => by cases hsome⟩
      cases hl : legacy? uri mode text with
      | some d => exact ofDocument_items d
      | none =>
        rw [hs, hl] at hr
        cases hr

/-- **A successful load leaves what its source declares**, item for item, exactly if no identity
comes twice there, as is always so in a structured text; of an identity that comes twice in a legacy
document only the first place and the last value are left. -/
theorem loaded_items_eq_declared_iff (h : (loadInitial c uri mode content w).1 = .ok r)
    (hr : r.succeeded = true) :
    ((loadInitial c uri mode content w).2.1.items = r.declared ↔
        (r.declared.map Item.id).Nodup) ∧
      (r.items.isSome = true → (loadInitial c uri mode content w).2.1.items = r.declared) ∧
      (loadInitial c uri mode content w).2.1.items = keptOnce r.declared := by
  obtain ⟨hitems, hstructured⟩ := loaded_items h hr
  have hiff := keptOnce_eq_self_iff r.declared
  rw [hitems]
  exact ⟨hiff, fun hsome => hiff.mpr (hstructured hsome), rfl⟩

/-- A legacy document with two items. -/
def twoElements : String := "<catalog><entity id='a'/><policy type='b'/></catalog>"

theorem loaded_items_of_two_elements :
    ∃ r, (loadInitial Catalog.empty "mem://a" .autodetect (.ok twoElements)).1 = .ok r ∧
      r.succeeded = true ∧ r.declared.length = 2 ∧
      (loadInitial Catalog.empty "mem://a" .autodetect (.ok twoElements)).2.1.items =
        r.declared := by
  obtain ⟨r, log, hload, hi, hd⟩ :=
    loadInitial_of_text Catalog.empty "mem://a" .autodetect twoElements .brief
  have h : (loadInitial Catalog.empty "mem://a" .autodetect (.ok twoElements)).1 = .ok r := by
    rw [hload]
  have hr : r.succeeded = true := by
    rw [succeeded_eq, hi, hd]
    decide +kernel
  have hids : r.declared.map Item.id = ["a:0.0.0-SNAPSHOT", "b:0.0.0-SNAPSHOT"] := by
    rw [LoadResult.declared, hi, hd]
    decide +kernel
  refine ⟨r, h, hr, ?_, (loaded_items_eq_declared_iff h hr).1.mpr (by rw [hids]; decide)⟩
  rw [← List.length_map Item.id, hids]
  rfl

/-- A legacy document with two items of one identity. -/
def sameElements : String :=
  "<catalog><entity id='a' name='first'/><entity id='a' name='second'/></catalog>"

/-- A legacy document loses an item although it loads. -/
theorem loaded_items_lose_repeated :
    ∃ r, (loadInitial Catalog.empty "mem://a" .xml (.ok sameElements)).1 = .ok r ∧
      r.succeeded = true ∧ r.declared.length = 2 ∧
      (loadInitial Catalog.empty "mem://a" .xml (.ok sameElements)).2.1.items.length = 1 := by
  obtain ⟨r, log, hload, hi, hd⟩ :=
    loadInitial_of_text Catalog.empty "mem://a" .xml sameElements .brief
  refine ⟨r, by rw [hload], ?_, ?_, ?_⟩
  · rw [succeeded_eq, hi, hd]
    decide +kernel
  · rw [LoadResult.declared, hi, hd]
    decide +kernel
  · rw [loadInitial_catalog]
    decide +kernel

end Whole

end ItemCatalog.Population
