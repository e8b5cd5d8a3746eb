import ItemCatalog.Proofs.Document.Building
import ItemCatalog.Proofs.Document.Reporting
import ItemCatalog.Proofs.Yaml.Keys
import Mathlib.Data.List.Forall2

/-! # Grammar: which structured documents give which items

`DocumentGives` says, without the reader, what a structured document is and which items it gives: a
mapping with a section; in the section a list whose entries describe items once the defaults of the
section are filled in, or nothing in the place of the list, or no list and the item itself.

The reader gives exactly these items, but for one kind of document (`structuredItems_gives_iff`): a
value in the place of the list that counts as false, such as an empty text, is taken for an empty
list (`HasBlankList`). -/

namespace ItemCatalog.Document

variable {w : Wording}

/-! ### Documents -/

/-- A document has a section: it is a mapping, and so is what is under the key of the section. -/
def HasSection (v : Value) (sec : Entries) : Prop :=
  ∃ top whole, v.asMap? = some top ∧ top.get? sectionKey = some whole ∧ whole.asMap? = some sec

/-- An entry gives an item: it is a mapping, and with the defaults of its section it describes the
item. -/
def EntryGives (source : Option String) (sec : Entries) (entry : Value) (i : Item) : Prop :=
  ∃ fields, entry.asMap? = some fields ∧ Describes (fields.extend (sectionDefaults sec)) i ∧
    i.source = source

/-- A section gives items: nothing stands in the place of the list; there is a list, and every entry
gives an item; or there is an id and no list, and the section is the item. -/
inductive SectionGives (source : Option String) (sec : Entries) : List Item → Prop where
  | none (h : sec.get? "items" = some .null) : SectionGives source sec []
  | list {listed : Value} {entries : List Value} {items : List Item}
    (h : sec.get? "items" = some listed) (hlist : listed.asList? = some entries)
    (hitems : List.Forall₂ (EntryGives source sec) entries items) : SectionGives source sec items
  | single {i : Item} (h : sec.get? "items" = Option.none) (hid : sec.has "id" = true)
    (hitem : Describes sec i) (hsource : i.source = source) : SectionGives source sec [i]

/-- **A document gives items.** -/
def DocumentGives (source : Option String) (v : Value) (items : List Item) : Prop :=
  ∃ sec, HasSection v sec ∧ SectionGives source sec items

/-- In the place of its list a section has a value that counts as false, but is neither null nor a
list. -/
def BlankList (sec : Entries) : Prop :=
  ∃ listed, sec.get? "items" = some listed ∧ listed.isTruthy = false ∧ listed ≠ .null ∧
    listed.asList? = none

/-- A document whose section has such a value. -/
def HasBlankList (v : Value) : Prop :=
  ∃ sec, HasSection v sec ∧ BlankList sec

theorem HasSection.unique {v : Value} {sec sec' : Entries} (h : HasSection v sec)
    (h' : HasSection v sec') : sec = sec' := by
  obtain ⟨top, whole, htop, hwhole, hsec⟩ := h
  obtain ⟨top', whole', htop', hwhole', hsec'⟩ := h'
  obtain rfl := Option.some.inj (htop.symm.trans htop')
  obtain rfl := Option.some.inj (hwhole.symm.trans hwhole')
  exact Option.some.inj (hsec.symm.trans hsec')

/-! ### Defaults -/

theorem get?_sectionDefaults (sec : Entries) (key : String) :
    Entries.get? (sectionDefaults sec) key = if key ∈ defaultKeys then sec.get? key else none := by
  have hall : ∀ keys : List String, Entries.get? (keys.filterMap fun k =>
      (sec.get? k).map fun v => (Scalar.text k, v)) key =
        if key ∈ keys then sec.get? key else none := by
    intro keys
    induction keys with
    | nil => rfl
    | cons k rest ih =>
      rw [List.filterMap_cons]
      cases hk : sec.get? k with
      | none =>
        by_cases hkey : key = k
        · subst hkey
          simp [ih, hk]
        · simp [ih, hkey]
      | some v =>
        simp only [Option.map_some, Entries.get?_cons, ih, Scalar.text.injEq, List.mem_cons]
        by_cases hkey : k = key
        · subst hkey
          simp [hk]
        · simp [hkey, Ne.symm hkey]
  exact hall defaultKeys

/-- A section lacks none of its own defaults. -/
theorem get?_extend_own (sec : Entries) (key : String) :
    Entries.get? (sec.extend (sectionDefaults sec)) key = sec.get? key := by
  rw [Entries.get?_extend, get?_sectionDefaults]
  cases hkey : sec.get? key <;> simp

/-! ### Entries -/

theorem isTruthy_of_asList? {v : Value} {entries : List Value} (h : v.asList? = some entries) :
    v.isTruthy = !entries.isEmpty := by
  unfold Value.asList? at h
  split at h
  · rename_i hopen
    rw [Value.isTruthy, hopen, Option.some.inj h]
  · cases h

/-- One entry is built if it gives its item. -/
theorem entry_eq_ok_iff {source : Option String} {sec fields : Entries} {place : String} {i : Item}
    (hkeys : DistinctKeys (fields.map Prod.fst)) :
    buildItem w (entryFields (sectionDefaults sec) fields) source place = .ok i ↔
      Describes (fields.extend (sectionDefaults sec)) i ∧ i.source = source := by
  rw [buildItem_eq_ok_iff]
  refine and_congr_left' (describes_congr (fun key hkey => ?_) i)
  rw [get?_entryFields _ _ hkey, Entries.get?_reverse hkeys, Entries.get?_extend]

/-- **Entries are built** if each of them gives its item, by induction on the entries. -/
theorem buildEntries_eq_ok_iff {source : Option String} {sec : Entries} {entries : List Value}
    (hentries : ∀ e ∈ entries, e.WellKeyed) (index : Nat) (items : List Item) :
    buildEntries w (sectionDefaults sec) source index entries = .ok items ↔
      List.Forall₂ (EntryGives source sec) entries items := by
  induction entries generalizing index items with
  | nil =>
    rw [List.forall₂_nil_left_iff]
    exact ⟨fun h => (Except.ok.inj h).symm, fun h => congrArg Except.ok h.symm⟩
  | cons entry rest ih =>
    obtain ⟨hentry, hrest⟩ := List.forall_mem_cons.mp hentries
    rw [List.forall₂_cons_left_iff]
    cases hmap : entry.asMap? with
    | none =>
      rw [buildEntries, hmap]
      constructor
      · intro h
        cases h
      · rintro ⟨i, items, ⟨fields, hfields, -⟩, -, -⟩
        cases hmap.symm.trans hfields
    | some fields =>
      have hkeys := (Value.wellKeyed_asMap hentry hmap).1
      have hgives : ∀ i, EntryGives source sec entry i ↔
          buildItem w (entryFields (sectionDefaults sec) fields) source s!"#{index}" = .ok i := by
        intro i
        rw [entry_eq_ok_iff hkeys, EntryGives]
        constructor
        · rintro ⟨fields', hmap', h⟩
          obtain rfl := Option.some.inj (hmap.symm.trans hmap')
          exact h
        · exact fun h => ⟨fields, hmap, h⟩
      simp only [hgives, ← ih hrest (index + 1)]
      rw [buildEntries_cons hmap]
      exact cons_eq_ok_iff

/-! ### Sections -/

section Sections

variable {source : Option String} {sec : Entries} {items : List Item}

theorem sectionGives_of_list {listed : Value} {entries : List Value}
    (h : sec.get? "items" = some listed) (hlist : listed.asList? = some entries) :
    SectionGives source sec items ↔ List.Forall₂ (EntryGives source sec) entries items := by
  refine ⟨fun hgives => ?_, .list h hlist⟩
  cases hgives with
  | none h' =>
    obtain rfl := Option.some.inj (h.symm.trans h')
    cases hlist
  | list h' hlist' hitems =>
    obtain rfl := Option.some.inj (h.symm.trans h')
    obtain rfl := Option.some.inj (hlist.symm.trans hlist')
    exact hitems
  | single h' => cases h.symm.trans h'

theorem sectionGives_of_null (h : sec.get? "items" = some .null) :
    SectionGives source sec items ↔ items = [] := by
  refine ⟨fun hgives => ?_, fun hitems => hitems ▸ .none h⟩
  cases hgives with
  | none => rfl
  | list h' hlist' =>
    cases Option.some.inj (h.symm.trans h')
    cases hlist'
  | single h' => cases h.symm.trans h'

theorem not_sectionGives {listed : Value} (h : sec.get? "items" = some listed)
    (hnull : listed ≠ .null) (hlist : listed.asList? = none) : ¬ SectionGives source sec items := by
  intro hgives
  cases hgives with
  | none h' => exact hnull (Option.some.inj (h.symm.trans h'))
  | list h' hlist' =>
    cases Option.some.inj (h.symm.trans h')
    cases hlist.symm.trans hlist'
  | single h' => cases h.symm.trans h'

theorem sectionGives_of_none (h : sec.get? "items" = none) :
    SectionGives source sec items ↔
      sec.has "id" = true ∧ ∃ i, (Describes sec i ∧ i.source = source) ∧ items = [i] := by
  constructor
  · intro hgives
    cases hgives with
    | none h' => cases h.symm.trans h'
    | list h' => cases h.symm.trans h'
    | single _ hid hitem hsource => exact ⟨hid, _, ⟨hitem, hsource⟩, rfl⟩
  · rintro ⟨hid, i, ⟨hitem, hsource⟩, rfl⟩
    exact .single h hid hitem hsource

/-- A section as one of its own entries gives the item that it describes. -/
theorem entryGives_own {whole : Value} (hwhole : whole.asMap? = some sec) {i : Item} :
    EntryGives source sec whole i ↔ Describes sec i ∧ i.source = source := by
  have hown := describes_congr (fun key _ => get?_extend_own sec key) i
  constructor
  · rintro ⟨fields, hfields, hitem, hsource⟩
    obtain rfl := Option.some.inj (hwhole.symm.trans hfields)
    exact ⟨hown.mp hitem, hsource⟩
  · exact fun ⟨hitem, hsource⟩ => ⟨sec, hwhole, hown.mpr hitem, hsource⟩

theorem blankList_iff {listed : Value} (h : sec.get? "items" = some listed) :
    BlankList sec ↔ listed.isTruthy = false ∧ listed ≠ .null ∧ listed.asList? = none := by
  rw [BlankList, h]
  simp

theorem not_blankList_of_none (h : sec.get? "items" = none) : ¬ BlankList sec := by
  rintro ⟨listed, h', -⟩
  cases h.symm.trans h'

/-- The entries of a section with a list are those of the list, also if it is empty. -/
theorem sectionEntries_of_list {listed whole : Value} {entries : List Value}
    (h : sec.get? "items" = some listed) (hlist : listed.asList? = some entries) :
    sectionEntries sec whole source = .ok entries := by
  simp only [sectionEntries, h, isTruthy_of_asList? hlist, hlist]
  cases entries with
  | nil => rfl
  | cons e rest => rfl

theorem sectionEntries_of_own {whole : Value} (h : sec.get? "items" = none)
    (hid : sec.has "id" = true) : sectionEntries sec whole source = .ok [whole] := by
  rw [sectionEntries, h, hid]
  rfl

section Items

variable {whole : Value} (hkeyed : whole.WellKeyed) (hwhole : whole.asMap? = some sec)

include hkeyed hwhole

theorem sectionItems_of_none (h : sec.get? "items" = none) :
    (sectionEntries sec whole source >>=
      buildEntries w (sectionDefaults sec) source 0) = .ok items ↔
      SectionGives source sec items := by
  rw [sectionGives_of_none h]
  cases hid : sec.has "id" with
  | false =>
    rw [sectionEntries, h, hid]
    constructor
    · intro h
      cases h
    · rintro ⟨h, -⟩
      cases h
  | true =>
    rw [sectionEntries_of_own h hid]
    show buildEntries w (sectionDefaults sec) source 0 [whole] = .ok items ↔ _
    rw [buildEntries_eq_ok_iff (List.forall_mem_singleton.mpr hkeyed),
      List.forall₂_cons_left_iff]
    simp [List.forall₂_nil_left_iff, entryGives_own hwhole]

theorem sectionItems_of_list {listed : Value} {entries : List Value}
    (h : sec.get? "items" = some listed) (hlist : listed.asList? = some entries) :
    (sectionEntries sec whole source >>=
      buildEntries w (sectionDefaults sec) source 0) = .ok items ↔
      SectionGives source sec items := by
  have hlisted := Value.wellKeyed_get? hkeyed hwhole h
  rw [sectionEntries_of_list h hlist, sectionGives_of_list h hlist]
  exact buildEntries_eq_ok_iff (Value.wellKeyed_asList hlisted hlist) 0 items

omit hkeyed hwhole in
/-- What is no list is not looked at any further if it counts as false. -/
theorem sectionItems_of_other {listed : Value} (h : sec.get? "items" = some listed)
    (hlist : listed.asList? = none) :
    (sectionEntries sec whole source >>=
      buildEntries w (sectionDefaults sec) source 0) = .ok items ↔
      SectionGives source sec items ∨ (BlankList sec ∧ items = []) := by
  rw [sectionEntries, h, blankList_iff h]
  by_cases hnull : listed = .null
  · subst hnull
    rw [sectionGives_of_null h, or_iff_left fun h => h.1.2.1 rfl]
    exact ⟨fun h => (Except.ok.inj h).symm, fun h => congrArg Except.ok h.symm⟩
  · rw [or_iff_right (not_sectionGives h hnull hlist)]
    simp only [hlist]
    cases listed.isTruthy with
    | true =>
      constructor
      · intro h
        cases h
      · rintro ⟨⟨h, -⟩, -⟩
        cases h
    | false =>
      exact ⟨fun h => ⟨⟨rfl, hnull, trivial⟩, (Except.ok.inj h).symm⟩,
        fun h => congrArg Except.ok h.2.symm⟩

/-- **The items of a section** are those that it gives, or none if a value that counts as false
stands in the place of the list. -/
theorem sectionItems_eq_ok_iff :
    (sectionEntries sec whole source >>=
      buildEntries w (sectionDefaults sec) source 0) = .ok items ↔
      SectionGives source sec items ∨ (BlankList sec ∧ items = []) := by
  cases hitems : sec.get? "items" with
  | none =>
    rw [sectionItems_of_none hkeyed hwhole hitems]
    exact (or_iff_left fun h => not_blankList_of_none hitems h.1).symm
  | some listed =>
    cases hlist : listed.asList? with
    | none => exact sectionItems_of_other hitems hlist
    | some entries =>
      have hno : ¬ BlankList sec := by
        rw [blankList_iff hitems, hlist]
        rintro ⟨-, -, h⟩
        cases h
      rw [sectionItems_of_list hkeyed hwhole hitems hlist]
      exact (or_iff_left fun h => hno h.1).symm

end Items

end Sections

/-! ### Documents that are read -/

/-- A document with a section has the items of its section. -/
theorem itemsOfValue_of_section {v : Value} {sec : Entries} (h : HasSection v sec)
    (source : Option String) :
    ∃ whole, whole.asMap? = some sec ∧ (v.WellKeyed → whole.WellKeyed) ∧
      itemsOfValue w v source =
        sectionEntries sec whole source >>= buildEntries w (sectionDefaults sec) source 0 := by
  obtain ⟨top, whole, htop, hwhole, hsec⟩ := h
  refine ⟨whole, hsec, fun hkeyed => Value.wellKeyed_get? hkeyed htop hwhole, ?_⟩
  rw [itemsOfValue, htop, Option.bind_some, hwhole]
  simp only [hsec]

theorem not_ok_of_no_section {v : Value} (h : ∀ sec, ¬ HasSection v sec) (source : Option String)
    (items : List Item) : itemsOfValue w v source ≠ .ok items := by
  rw [itemsOfValue]
  split
  · intro h
    cases h
  · rename_i whole hwhole
    obtain ⟨top, htop, hwhole⟩ := Option.bind_eq_some_iff.mp hwhole
    split
    · intro h
      cases h
    · exact absurd ⟨top, whole, htop, hwhole, ‹_›⟩ (h _)

theorem itemsOfValue_eq_ok_iff {v : Value} (hkeyed : v.WellKeyed) {source : Option String}
    {items : List Item} : itemsOfValue w v source = .ok items ↔
      DocumentGives source v items ∨ (HasBlankList v ∧ items = []) := by
  by_cases hsec : ∃ sec, HasSection v sec
  · obtain ⟨sec, hsec⟩ := hsec
    obtain ⟨whole, hwhole, hkeyed', hread⟩ := itemsOfValue_of_section hsec source
    have hgives : DocumentGives source v items ↔ SectionGives source sec items :=
      ⟨fun ⟨_, hsec', h⟩ => hsec.unique hsec' ▸ h, fun h => ⟨sec, hsec, h⟩⟩
    have hblank : HasBlankList v ↔ BlankList sec :=
      ⟨fun ⟨_, hsec', h⟩ => hsec.unique hsec' ▸ h, fun h => ⟨sec, hsec, h⟩⟩
    rw [hread, sectionItems_eq_ok_iff (hkeyed' hkeyed) hwhole, hgives, hblank]
  · have hno : ∀ sec, ¬ HasSection v sec := fun sec h => hsec ⟨sec, h⟩
    refine iff_of_false (not_ok_of_no_section hno source items) ?_
    rintro (⟨sec, h, -⟩ | ⟨⟨sec, h, -⟩, -⟩)
    · exact hno sec h
    · exact hno sec h

/-! ### Texts that are read -/

theorem structuredItems_of_load {text : String} {v : Value} (hload : Yaml.load text = .ok v)
    (source : Option String) : structuredItems text source w = itemsOfValue w v source := by
  rw [structuredItems, hload]

theorem not_documentGives_of_hasBlankList {v : Value} (h : HasBlankList v)
    (source : Option String) (items : List Item) : ¬ DocumentGives source v items := by
  obtain ⟨sec, hsec, listed, hitems, -, hnull, hlist⟩ := h
  rintro ⟨sec', hsec', hgives⟩
  obtain rfl := hsec.unique hsec'
  exact not_sectionGives hitems hnull hlist hgives

/-- The items that a document gives have the source that it is read with. -/
theorem DocumentGives.source {source : Option String} {v : Value} {items : List Item}
    (h : DocumentGives source v items) : ∀ i ∈ items, i.source = source := by
  obtain ⟨sec, -, hgives⟩ := h
  cases hgives with
  | none => exact nofun
  | single _ _ _ hsource => exact List.forall_mem_singleton.mpr hsource
  | list _ hlist hitems =>
    clear hlist
    induction hitems with
    | nil => exact nofun
    | cons hentry _ ih =>
      obtain ⟨fields, -, -, hsource⟩ := hentry
      exact List.forall_mem_cons.mpr ⟨hsource, ih⟩

/-- **The grammar.** A text that has a value is read, as the items that the value gives, exactly if
the value gives some; this is so for every value but one with a blank in the place of the list,
which gives nothing and is read as no items. Every fault is a report with the source, and every item
that is read has this source. -/
theorem structuredItems_gives_iff {text : String} {v : Value} (hload : Yaml.load text = .ok v)
    (source : Option String) :
    ((∀ items, structuredItems text source w = .ok items ↔ DocumentGives source v items) ↔
      ¬ HasBlankList v) ∧
    (HasBlankList v → structuredItems text source w = .ok [] ∧
      ∀ items, ¬ DocumentGives source v items) ∧
    FaultsAre (IsReport source) (structuredItems text source w) ∧
    ∀ items, structuredItems text source w = .ok items → ∀ i ∈ items, i.source = source := by
  rw [structuredItems_of_load hload]
  have hread : ∀ items, itemsOfValue w v source = .ok items ↔
      DocumentGives source v items ∨ (HasBlankList v ∧ items = []) :=
    fun _ => itemsOfValue_eq_ok_iff (Yaml.load_wellKeyed hload)
  have hblank : HasBlankList v → itemsOfValue w v source = .ok [] :=
    fun h => (hread []).mpr (.inr ⟨h, rfl⟩)
  refine ⟨⟨fun hexact h => ?_, fun h items => ?_⟩, fun h => ⟨hblank h, ?_⟩,
    itemsOfValue_reports v, fun items hitems => ?_⟩
  · exact not_documentGives_of_hasBlankList h source [] ((hexact []).mp (hblank h))
  · rw [hread, or_iff_left fun hboth => h hboth.1]
  · exact not_documentGives_of_hasBlankList h source
  · rcases (hread items).mp hitems with hgives | ⟨-, rfl⟩
    · exact hgives.source
    · exact nofun

/-- A document with one entry, which has its version from the section. -/
def oneEntry : String := "catalog: {version: v1, items: [{id: a, source: b}]}"

theorem structuredItems_of_oneEntry :
    structuredItems oneEntry (some "mem://a") =
      .ok [{ symbolicName := "a", version := "v1", source := some "mem://a" }] := by
  let entry : Entries := [(.text "id", .text "a"), (.text "source", .text "b")]
  let sec : Entries := [(.text "version", .text "v1"), (.text "items", .list [.map entry])]
  have hload : Yaml.load oneEntry = .ok (.map [(.text "catalog", .map sec)]) := by
    decide +kernel
  have hsection : HasSection (.map [(.text "catalog", .map sec)]) sec := ⟨_, _, rfl, rfl, rfl⟩
  have hlisted : ¬ HasBlankList (.map [(.text "catalog", .map sec)]) := by
    rintro ⟨sec', hsec', hblank⟩
    obtain rfl := hsection.unique hsec'
    cases ((blankList_iff rfl).mp hblank).1
  have hitem : EntryGives (some "mem://a") sec (.map entry)
      { symbolicName := "a", version := "v1", source := some "mem://a" } :=
    ⟨entry, rfl, ⟨⟨_, rfl, .spelled (.text "a"), by decide⟩, .spelled (.text "v1"), .absent,
      .absent, rfl, rfl⟩, rfl⟩
  exact ((structuredItems_gives_iff hload _).1.mpr hlisted _).mpr
    ⟨sec, hsection, .list rfl rfl (.cons hitem .nil)⟩

/-- A document with a truth value in the place of the list. -/
def falseList : String := "catalog: {items: false}"

/-- It gives nothing, and is read as no items. -/
theorem structuredItems_of_falseList :
    Yaml.load falseList = .ok (.map [(.text "catalog", .map [(.text "items", .bool false)])]) ∧
    structuredItems falseList (some "mem://a") = .ok [] ∧
    ∀ items, ¬ DocumentGives (some "mem://a")
      (.map [(.text "catalog", .map [(.text "items", .bool false)])]) items := by
  have hload : Yaml.load falseList =
      .ok (.map [(.text "catalog", .map [(.text "items", .bool false)])]) := by decide +kernel
  refine ⟨hload, ?_, ?_⟩
  · rw [structuredItems_of_load hload]
    rfl
  · exact not_documentGives_of_hasBlankList
      ⟨_, ⟨_, _, rfl, rfl, rfl⟩, .bool false, rfl, rfl, nofun, rfl⟩ _

end ItemCatalog.Document
