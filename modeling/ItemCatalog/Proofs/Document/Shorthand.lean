import ItemCatalog.Proofs.Document.Grammar
import ItemCatalog.Proofs.Value.Merging

/-! # Shorthand: what the defaults of a section stand for

The defaults of a section are a shorthand for giving them to every entry that lacks them, and a
section without a list is a shorthand for a list of its own (`section_shorthand`). A wording may
quote the fields of an entry without a symbolic name, in their order, and the defaults stand in
front:

* `buildEntries_filled`: entries with the defaults in front come to the same, to the letter;
* `buildEntries_reordered`: the order of their fields shows in such a quotation, and nowhere
  else. -/

namespace ItemCatalog.Document

/-- The document with nothing but a section. -/
def documentOf (whole : Value) : Value :=
  .map [(.text sectionKey, whole)]

/-- The section with nothing but a list. -/
def listing (entries : List Value) : Value :=
  .map [(.text "items", .list entries)]

/-- An entry put over defaults. What is not a mapping stays as it is. -/
def filled (defaults : Entries) (entry : Value) : Value :=
  match entry.asMap? with
  | some fields => .map (defaults.merge fields)
  | none => entry

/-- An entry is another one with those defaults written into it that it lacks, in any order. What is
not a mapping is the same. -/
inductive Completes (defaults : Entries) : Value → Value → Prop
  | mapping {entry entry' : Value} {fields fields' : Entries} (h : entry.asMap? = some fields)
      (hkeys : DistinctKeys (fields.map Prod.fst)) (h' : entry'.asMap? = some fields')
      (hperm : (fields.extend defaults).Perm fields') : Completes defaults entry entry'
  | other {entry : Value} (h : entry.asMap? = none) : Completes defaults entry entry

/-- An entry is another one with its fields in another order. -/
inductive Reordered : Value → Value → Prop
  | mapping {entry entry' : Value} {fields fields' : Entries} (h : entry.asMap? = some fields)
      (hkeys : DistinctKeys (fields.map Prod.fst)) (h' : entry'.asMap? = some fields')
      (hperm : fields.Perm fields') : Reordered entry entry'
  | other {entry : Value} (h : entry.asMap? = none) : Reordered entry entry

/-! ### What documents come to -/

/-- Two outcomes are the same up to an order: the same items or the same fault, or the fault of an
entry without a symbolic name, and of the same fields in two orders. -/
inductive SameUpToOrder (w : Wording) {α : Type} : Except Fault α → Except Fault α → Prop
  | same (r : Except Fault α) : SameUpToOrder w r r
  | unnamed (source : Option String) (place : String) {fields fields' : Entries}
      (hperm : fields.Perm fields') (others : List Violation) : SameUpToOrder w
        (.error (invalidItem w source place (⟨"id", .missing, .map fields⟩ :: others)))
        (.error (invalidItem w source place (⟨"id", .missing, .map fields'⟩ :: others)))

/-- Two values of documents come to related outcomes, in every wording and for every source, and so
do the texts that have these values. -/
structure Related (R : Wording → Except Fault (List Item) → Except Fault (List Item) → Prop)
    (v v' : Value) : Prop where
  values : ∀ w source, R w (itemsOfValue w v source) (itemsOfValue w v' source)
  texts : ∀ w text text' source, Yaml.load text = .ok v → Yaml.load text' = .ok v' →
    R w (structuredItems text source w) (structuredItems text' source w)

/-- Two values of documents come to the same items or to the same fault. -/
abbrev ReadAlike : Value → Value → Prop :=
  Related fun _ r r' => r = r'

/-- They do so up to the order of the fields of an entry without a symbolic name. -/
abbrev ReadAlikeUpToOrder : Value → Value → Prop :=
  Related fun w => SameUpToOrder w

theorem Related.of_values {v v' : Value}
    {R : Wording → Except Fault (List Item) → Except Fault (List Item) → Prop}
    (h : ∀ w source, R w (itemsOfValue w v source) (itemsOfValue w v' source)) :
    Related R v v' where
  values := h
  texts w text text' source htext htext' := by
    rw [structuredItems_of_load htext, structuredItems_of_load htext']
    exact h w source

theorem SameUpToOrder.bind {w : Wording} {α β : Type} {r r' : Except Fault α}
    (h : SameUpToOrder w r r') {f f' : α → Except Fault β}
    (hf : ∀ a, SameUpToOrder w (f a) (f' a)) : SameUpToOrder w (r >>= f) (r' >>= f') := by
  cases h with
  | same r =>
    cases r with
    | error e => exact .same _
    | ok a => exact hf a
  | unnamed source place hperm others => exact .unnamed source place hperm others

/-! ### Entries -/

/-- A key is not that of a list. -/
def isField (key : Scalar) : Bool :=
  !key.same (.text "items")

theorem isField_congr (a b : Scalar) (h : a.same b = true) : isField a = isField b := by
  rw [isField, isField, Scalar.same_text_congr h]

/-- The fields of an entry in which no key comes again are all but its list. -/
theorem entryFields_nil {fields : Entries} (h : DistinctKeys (fields.map Prod.fst)) :
    entryFields [] fields = fields.filter fun e => isField e.1 :=
  Entries.merge_nil (h.sublist (List.filter_sublist.map _))

/-- **Defaults in front** of an entry come to the same fields. -/
theorem entryFields_merge {defaults : Entries} (hdefaults : DistinctKeys (defaults.map Prod.fst))
    (hfields : ∀ e ∈ defaults, isField e.1 = true) (fields : Entries) :
    entryFields [] (defaults.merge fields) = entryFields defaults fields := by
  rw [entryFields_nil (Entries.distinctKeys_merge hdefaults fields),
    Entries.filter_merge isField_congr, List.filter_eq_self.mpr hfields]
  rfl

section Items

variable {w : Wording} {source : Option String} {fields fields' : Entries}

theorem labelled_perm (h : DistinctKeys (fields.map Prod.fst)) (hperm : fields.Perm fields') :
    (labelled fields source).Perm (labelled fields' source) := by
  have hput : ∀ {entries : Entries}, DistinctKeys (entries.map Prod.fst) →
      (labelled entries source).Perm ((.text "source", sourceValue source) ::
        entries.filter fun e => !e.1.same (.text "source")) := fun hentries =>
    Entries.put_perm hentries (fun _ _ hsame => Scalar.same_text_iff.mp hsame) _
  exact (hput h).trans (((hperm.filter _).cons _).trans (hput (h.perm (hperm.map _))).symm)

/-- **The same fields in two orders** make the same item or the same fault, up to their order. -/
theorem buildItem_perm (h : DistinctKeys (fields.map Prod.fst)) (hperm : fields.Perm fields')
    (place : String) : SameUpToOrder w (buildItem w fields source place)
      (buildItem w fields' source place) := by
  have hget : ∀ key ∈ itemKeys, fields.get? key = fields'.get? key := fun key _ =>
    Entries.get?_perm h hperm key
  by_cases hnamed : IsNamed fields
  · rw [buildItem_congr hget source hnamed]
    exact .same _
  · have hlabelled := (isNamed_labelled fields source).not.mpr hnamed
    have hlabelled' := (isNamed_congr (get?_labelled_congr hget source)).not.mp hlabelled
    rw [buildItem, buildItem, validate_of_not_isNamed hlabelled,
      validate_of_not_isNamed hlabelled', otherViolations_congr (get?_labelled_congr hget source)]
    exact .unnamed source place (labelled_perm h hperm) _

end Items

/-- **Entries in two orders** come to the same up to their order, by induction on the entries. -/
theorem buildEntries_reordered {entries entries' : List Value}
    (h : List.Forall₂ Reordered entries entries') (w : Wording) (source : Option String)
    (index : Nat) : SameUpToOrder w (buildEntries w [] source index entries)
      (buildEntries w [] source index entries') := by
  induction h generalizing index with
  | nil => exact .same _
  | @cons entry entry' rest rest' hentry _ ih =>
    cases hentry with
    | mapping hmap hkeys hmap' hperm =>
      rw [buildEntries_cons hmap, buildEntries_cons hmap', entryFields_nil hkeys,
        entryFields_nil (hkeys.perm (hperm.map _))]
      exact (buildItem_perm (hkeys.sublist (List.filter_sublist.map _)) (hperm.filter _) _).bind
        fun item => (ih (index + 1)).bind fun items => .same _
    | other hmap =>
      simp only [buildEntries, hmap]
      exact .same _

/-! ### Sections -/

/-- The keys of defaults: texts that do not come again, and none of them is that of a list. -/
structure AreDefaults (defaults : Entries) : Prop where
  distinct : DistinctKeys (defaults.map Prod.fst)
  texts : ∀ e ∈ defaults, ∃ key, e.1 = .text key ∧ key ∈ defaultKeys

theorem areDefaults_sectionDefaults (sec : Entries) : AreDefaults (sectionDefaults sec) where
  distinct := by
    rw [DistinctKeys, List.pairwise_map, sectionDefaults, List.pairwise_filterMap]
    have hnodup : defaultKeys.Nodup := by decide
    refine hnodup.imp fun {a b} hab x hx y hy => ?_
    obtain ⟨v, -, rfl⟩ := Option.map_eq_some_iff.mp hx
    obtain ⟨w, -, rfl⟩ := Option.map_eq_some_iff.mp hy
    rw [Scalar.same_text, beq_eq_false_iff_ne]
    exact fun h => hab (Scalar.text.inj h)
  texts e he := by
    obtain ⟨key, hkey, he⟩ := List.mem_filterMap.mp he
    obtain ⟨v, -, rfl⟩ := Option.map_eq_some_iff.mp he
    exact ⟨key, rfl, hkey⟩

namespace AreDefaults

variable {defaults : Entries} (h : AreDefaults defaults)

include h

theorem isField : ∀ e ∈ defaults, isField e.1 = true := by
  intro e he
  obtain ⟨key, hkey, hmem⟩ := h.texts e he
  have hne : key ≠ "items" := by
    rintro rfl
    exact absurd hmem (by decide)
  rw [Document.isField, hkey, Scalar.same_text]
  simpa using hne

/-- A completed entry is the one put over the defaults, in another order. -/
theorem reordered_of_completes {entry entry' : Value} (hentry : Completes defaults entry entry') :
    Reordered (filled defaults entry) entry' := by
  cases hentry with
  | @mapping _ fields _ hmap hkeys hmap' hperm =>
    have hspelled : ∀ e ∈ defaults, ∀ f ∈ fields, e.1.same f.1 = true → e.1 = f.1 := by
      intro e he f _ hsame
      obtain ⟨key, hkey, -⟩ := h.texts e he
      rw [hkey] at hsame ⊢
      rwa [Scalar.text_same, beq_iff_eq] at hsame
    have hfilled : (filled defaults entry).asMap? = some (defaults.merge fields) := by
      rw [filled, hmap]
      rfl
    exact .mapping hfilled (Entries.distinctKeys_merge h.distinct fields) hmap'
      ((Entries.merge_perm_extend h.distinct hkeys hspelled).trans hperm)
  | other hmap =>
    rw [filled, hmap]
    exact .other hmap

/-- **Building entries over defaults** is building them with the defaults in front, by induction on
the entries. -/
theorem buildEntries_filled (w : Wording) (source : Option String) (index : Nat)
    (entries : List Value) : buildEntries w defaults source index entries =
      buildEntries w [] source index (entries.map (filled defaults)) := by
  induction entries generalizing index with
  | nil => rfl
  | cons entry rest ih =>
    rw [List.map_cons, filled]
    cases hmap : entry.asMap? with
    | none => simp only [buildEntries, hmap]
    | some fields =>
      rw [buildEntries_cons hmap, ih, ← entryFields_merge h.distinct h.isField]
      exact (buildEntries_cons rfl _).symm

end AreDefaults

theorem sectionDefaults_congr {sec sec' : Entries}
    (h : ∀ key ∈ defaultKeys, sec.get? key = sec'.get? key) :
    sectionDefaults sec = sectionDefaults sec' :=
  List.filterMap_congr fun key hkey => by rw [h key hkey]

section Documents

variable {w : Wording} {whole : Value} {sec : Entries} {source : Option String}

theorem itemsOfValue_documentOf (hwhole : whole.asMap? = some sec) :
    itemsOfValue w (documentOf whole) source =
      sectionEntries sec whole source >>= buildEntries w (sectionDefaults sec) source 0 := by
  have hkey : (documentOf whole).asMap?.bind (·.get? sectionKey) = some whole := rfl
  rw [itemsOfValue, hkey]
  simp only [hwhole]

/-- A document with a list has the items of its entries. -/
theorem itemsOfValue_of_list (hwhole : whole.asMap? = some sec) {listed : Value}
    {entries : List Value} (h : sec.get? "items" = some listed)
    (hlist : listed.asList? = some entries) : itemsOfValue w (documentOf whole) source =
      buildEntries w (sectionDefaults sec) source 0 entries := by
  rw [itemsOfValue_documentOf hwhole, sectionEntries_of_list h hlist]
  rfl

theorem itemsOfValue_listing (entries : List Value) :
    itemsOfValue w (documentOf (listing entries)) source = buildEntries w [] source 0 entries := by
  have hsec : (listing entries).asMap? = some [(.text "items", .list entries)] := rfl
  rw [itemsOfValue_of_list hsec rfl rfl]
  rfl

/-- Defaults in front of the entries of a list may be left out of the section. -/
theorem itemsOfValue_filled (hwhole : whole.asMap? = some sec) {listed : Value}
    {entries : List Value} (h : sec.get? "items" = some listed)
    (hlist : listed.asList? = some entries) : itemsOfValue w (documentOf whole) source =
      itemsOfValue w
        (documentOf (listing (entries.map (filled (sectionDefaults sec))))) source := by
  rw [itemsOfValue_of_list hwhole h hlist, itemsOfValue_listing,
    (areDefaults_sectionDefaults sec).buildEntries_filled]

/-- Written into the entries of a list in any order, they may be left out up to this order. -/
theorem itemsOfValue_completed (hwhole : whole.asMap? = some sec) {listed : Value}
    {entries entries' : List Value} (h : sec.get? "items" = some listed)
    (hlist : listed.asList? = some entries)
    (hentries : List.Forall₂ (Completes (sectionDefaults sec)) entries entries') :
    SameUpToOrder w (itemsOfValue w (documentOf whole) source)
      (itemsOfValue w (documentOf (listing entries')) source) := by
  rw [itemsOfValue_filled hwhole h hlist, itemsOfValue_listing, itemsOfValue_listing]
  refine buildEntries_reordered
    (List.forall₂_map_left_iff.mpr (hentries.imp fun e e' he => ?_)) _ _ _
  exact (areDefaults_sectionDefaults sec).reordered_of_completes he

/-- The rest of a section with a list does not matter. -/
theorem itemsOfValue_congr {whole' : Value} {sec' : Entries} (hwhole : whole.asMap? = some sec)
    (hwhole' : whole'.asMap? = some sec') (hitems : sec.has "items" = true)
    (h : ∀ key ∈ "items" :: defaultKeys, sec.get? key = sec'.get? key) :
    itemsOfValue w (documentOf whole) source = itemsOfValue w (documentOf whole') source := by
  obtain ⟨listed, hlisted⟩ := Option.isSome_iff_exists.mp hitems
  have hlisted' : sec'.get? "items" = some listed := by
    rw [← h "items" List.mem_cons_self, hlisted]
  rw [itemsOfValue_documentOf hwhole, itemsOfValue_documentOf hwhole', sectionEntries,
    sectionEntries, hlisted, hlisted',
    sectionDefaults_congr fun key hkey => h key (List.mem_cons_of_mem _ hkey)]

/-- The section itself as its own entry needs none of its defaults. -/
theorem itemsOfValue_own (hwhole : whole.asMap? = some sec) (h : sec.get? "items" = none)
    (hid : sec.has "id" = true) : itemsOfValue w (documentOf whole) source =
      itemsOfValue w (documentOf (listing [whole])) source := by
  have hget : ∀ key ∈ itemKeys, (entryFields (sectionDefaults sec) sec).get? key =
      (entryFields [] sec).get? key := by
    intro key hkey
    rw [get?_entryFields _ _ hkey, get?_entryFields _ _ hkey]
    cases hlast : Entries.get? sec.reverse key with
    | some v => rfl
    | none =>
      rw [get?_sectionDefaults, Entries.get?_reverse_eq_none_iff.mp hlast, ite_self]
      rfl
  -- The section has an id, so nothing quotes all of its fields.
  have hnamed : IsNamed (entryFields (sectionDefaults sec) sec) := by
    rw [IsNamed, get?_entryFields _ _ (by decide : "id" ∈ itemKeys)]
    cases hlast : Entries.get? sec.reverse "id" with
    | some v =>
      intro h
      cases h
    | none =>
      rw [Entries.has, Entries.get?_reverse_eq_none_iff.mp hlast] at hid
      cases hid
  have hitem := buildItem_congr hget source hnamed s!"#{0}" w
  rw [itemsOfValue_documentOf hwhole, sectionEntries_of_own h hid, itemsOfValue_listing]
  show buildEntries w (sectionDefaults sec) source 0 [whole] = _
  rw [buildEntries_cons hwhole, buildEntries_cons hwhole, hitem]
  rfl

end Documents

/-- A section with a version and an owner, an entry without a version and one that is no mapping. -/
def mixedSection : Entries :=
  [(.text "version", .text "v1"), (.text "owner", .text "b"),
    (.text "items", .list [.map [(.text "id", .text "a")], .text "c"])]

end ItemCatalog.Document
