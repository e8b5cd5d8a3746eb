import ItemCatalog.Proofs.Document.Mirror
import ItemCatalog.Proofs.Value.Merging

/-! # Migration: the same items in both formats

A record says what an item is, whatever the format. `legacyTree` writes records as the parts of a
legacy document: its texts are attributes, but for description and plan, which are parts of their
own. `structuredValue` writes them as the items of a structured document, as texts under keys. What
is absent is left out in both.

* `buildItem_of_holds`, `mirrors_element`: fields that hold a record make its item, and the item
  mirrors the element;
* `buildEntries_records`, `legacyItems_records`: both readers, record by record;
* `migration_keeps_items`: both documents give the same items. -/

namespace ItemCatalog.Document

open Text

variable {w : Wording}

/-! ### Records -/

/-- A text that has something in it and no blank at either end. -/
structure TrimmedText where
  text : String
  first : ∃ c, text.toList.head? = some c ∧ isBlank c = false
  last : ∃ c, text.toList.getLast? = some c ∧ isBlank c = false

/-- What an item is, without a source. -/
structure Record where
  kind : ItemType
  id : String
  id_ne : id ≠ ""
  version : Option String
  version_ne : version ≠ some ""
  name : Option String
  description : Option TrimmedText
  plan : Option TrimmedText

/-- **The item** of a record. -/
def Record.item (r : Record) (source : Option String) : Item where
  symbolicName := r.id
  version := r.version.getD defaultVersion
  displayName := r.name
  description := r.description.map TrimmedText.text
  itemType := r.kind
  plan := textOrNull (r.plan.map TrimmedText.text)
  source := source

/-! ### Writing -/

/-- A text under a key, if there is one. -/
def given (key : String) (s : Option String) : List (String × String) :=
  s.toList.map (key, ·)

/-- A part that holds a text, if there is one. -/
def givenPart (name : String) (t : Option TrimmedText) : List Xml.Element :=
  t.toList.map fun t => ⟨.plain name, [], [.text t.text]⟩

/-- An element as a part. -/
def partOf (e : Xml.Element) : Xml.Node :=
  .element e.name e.attributes e.children

/-- The element of a record. -/
def Record.element (r : Record) : Xml.Element where
  name := .plain r.kind.name
  attributes := (("id", r.id) :: (given "version" r.version ++ given "name" r.name)).map
    fun a => (.plain a.1, a.2)
  children := (givenPart "description" r.description ++ givenPart "plan" r.plan).map partOf

/-- **The legacy document** of records. -/
def legacyTree (records : List Record) : Xml.Element :=
  ⟨.plain sectionKey, [], records.map fun r => partOf r.element⟩

/-- The fields of a record. -/
def Record.fields (r : Record) : List (String × String) :=
  ("id", r.id) :: (given "version" r.version ++ (given "name" r.name ++
    ("item_type", r.kind.name) :: (given "description" (r.description.map TrimmedText.text) ++
      given "item" (r.plan.map TrimmedText.text))))

/-- **The structured document** of records. -/
def structuredValue (records : List Record) : Value :=
  .map [(.text sectionKey,
    .map [(.text "items", .list (records.map fun r => .map (textEntries r.fields)))])]

/-! ### Fields that hold a record -/

theorem lookup_given (key other : String) (s : Option String) :
    (given key s).lookup other = if other = key then s else none := by
  cases s with
  | none => simp [given]
  | some s =>
    by_cases h : other = key
    · simp [given, h]
    · simp [given, h, beq_eq_false_iff_ne.mpr h]

/-- Fields hold a record: every field is under its short key, or null or absent if the record does
without it, and nothing is under the long keys of optional fields. -/
structure Holds (fields : Entries) (r : Record) : Prop where
  id : fields.get? "id" = some (.text r.id)
  version : fields.get? "version" = r.version.map Value.text
  name : (fields.get? "name").getD .null = textOrNull r.name
  displayName : fields.get? "display_name" = none
  description :
    (fields.get? "description").getD .null = textOrNull (r.description.map TrimmedText.text)
  itemType : fields.get? "item_type" = some (.text r.kind.name)
  item : (fields.get? "item").getD .null = textOrNull (r.plan.map TrimmedText.text)
  plan : fields.get? "plan" = none

theorem spellsOptional_of_getD {v : Option Value} {s : Option String}
    (h : v.getD .null = textOrNull s) : SpellsOptional v s := by
  cases v with
  | some w =>
    obtain rfl : w = sourceValue s := h
    exact spellsOptional_sourceValue.mpr rfl
  | none =>
    cases s with
    | none => exact .absent
    | some s => cases h

/-- **Fields that hold a record** make its item. -/
theorem buildItem_of_holds {fields : Entries} {r : Record} (h : Holds fields r)
    (source : Option String) (place : String) :
    buildItem w fields source place = .ok (r.item source) := by
  refine buildItem_eq_ok_iff.mpr ⟨⟨?_, ?_, ?_, ?_, ?_, ?_⟩, rfl⟩
  · exact ⟨.text r.id, by rw [h.id, Option.some_or], .spelled (.text r.id), r.id_ne⟩
  · rw [h.version, Record.item]
    cases r.version with
    | none => rfl
    | some s => exact .spelled (.text s)
  · rw [h.displayName, Option.or_none]
    exact spellsOptional_of_getD h.name
  · exact spellsOptional_of_getD h.description
  · rw [h.itemType]
    exact .text r.kind.name
  · rw [h.plan, Option.or_none, h.item]
    rfl

/-! ### The structured reader -/

theorem keys_given (key : String) (s : Option String) :
    ((given key s).map Prod.fst).Sublist [key] := by
  cases s with
  | none => exact List.nil_sublist _
  | some s => exact List.Sublist.refl _

/-- The keys of a record, in their order. -/
theorem keys_fields (r : Record) : (r.fields.map Prod.fst).Sublist
    ["id", "version", "name", "item_type", "description", "item"] := by
  simp only [Record.fields, List.map_cons, List.map_append]
  have hlate := (keys_given "description" (r.description.map TrimmedText.text)).append
    (keys_given "item" (r.plan.map TrimmedText.text))
  have hearly := (keys_given "name" r.name).append (hlate.cons_cons "item_type")
  exact ((keys_given "version" r.version).append hearly).cons_cons "id"

theorem holds_fields (r : Record) : Holds (textEntries r.fields) r := by
  have hget : ∀ key, Entries.get? (textEntries r.fields) key =
      (r.fields.lookup key).map Value.text := Entries.get?_textEntries r.fields
  have hnull : ∀ s : Option String, (s.map Value.text).getD .null = textOrNull s := by
    intro s
    cases s <;> rfl
  constructor <;> rw [hget] <;>
    simp [Record.fields, List.lookup_append, List.lookup_cons, lookup_given, hnull,
      -Option.map_map]

/-- The fields of a record, as an entry of a section without defaults. -/
theorem entryFields_record (r : Record) :
    entryFields [] (textEntries r.fields) = textEntries r.fields := by
  have hkeep : (textEntries r.fields).filter (fun e => !e.1.same (.text "items")) =
      textEntries r.fields := by
    refine List.filter_eq_self.mpr fun e he => ?_
    obtain ⟨f, hf, rfl⟩ := List.mem_map.mp he
    have hkey := (keys_fields r).subset (List.mem_map_of_mem hf)
    have hne : f.1 ≠ "items" := by
      intro h
      rw [h] at hkey
      exact absurd hkey (by decide)
    rw [Scalar.same_text]
    simpa using hne
  rw [entryFields, hkeep]
  exact Entries.merge_nil (distinctKeys_textEntries ((keys_fields r).nodup (by decide)))

theorem buildEntries_records (records : List Record) (source : Option String) (index : Nat) :
    buildEntries w [] source index (records.map fun r => .map (textEntries r.fields)) =
      .ok (records.map (Record.item · source)) := by
  induction records generalizing index with
  | nil => rfl
  | cons r rest ih =>
    have hitem := buildItem_of_holds (w := w) (holds_fields r) source s!"#{index}"
    rw [← entryFields_record r] at hitem
    simp only [List.map_cons, buildEntries, Value.asMap?, Value.open?, hitem, ih]
    rfl

/-- **The structured document** of records gives their items. -/
theorem itemsOfValue_records (records : List Record) (source : Option String) :
    itemsOfValue w (structuredValue records) source =
      .ok (records.map (Record.item · source)) := by
  let entries : List Value := records.map fun r => .map (textEntries r.fields)
  let sec : Entries := [(.text "items", .list entries)]
  have hsection : sectionEntries sec (.map sec) source = .ok entries := by
    cases records <;> rfl
  show (sectionEntries sec (.map sec) source >>= buildEntries w [] source 0) = _
  rw [hsection]
  exact buildEntries_records records source 0

/-! ### The legacy reader -/

/-- A text without blanks at its ends is stripped already. -/
theorem strip_trimmed (t : TrimmedText) : strip t.text = t.text := by
  obtain ⟨c, hfirst, hc⟩ := t.first
  obtain ⟨d, hlast, hd⟩ := t.last
  have hdrop : ∀ cs : List Char, ∀ x, cs.head? = some x → isBlank x = false →
      cs.dropWhile isBlank = cs := by
    intro cs x hx hblank
    cases cs with
    | nil => cases hx
    | cons y cs =>
      obtain rfl := Option.some.inj hx
      rw [List.dropWhile_cons, hblank]
      rfl
  rw [strip, stripChars, hdrop _ c hfirst hc, hdrop _ d (by rw [List.head?_reverse, hlast]) hd,
    List.reverse_reverse, String.ofList_toList]

theorem elements_of_parts (name : Xml.Name) (attributes : List (Xml.Name × String))
    (parts : List Xml.Element) :
    Xml.Element.elements ⟨name, attributes, parts.map partOf⟩ = parts := by
  have hpart : Xml.Node.asElement? ∘ partOf = some := rfl
  rw [Xml.Element.elements, List.filterMap_map, hpart, List.filterMap_some]

theorem attribute?_plain (name : Xml.Name) (attributes : List (String × String))
    (children : List Xml.Node) (key : String) :
    Xml.Element.attribute? ⟨name, attributes.map fun a => (.plain a.1, a.2), children⟩ key =
      attributes.lookup key := by
  rw [Xml.Element.attribute?]
  induction attributes with
  | nil => rfl
  | cons a rest ih =>
    have hkey : (Xml.Name.plain key == Xml.Name.plain a.1) = (key == a.1) := by
      by_cases h : key = a.1
      · rw [h, beq_self_eq_true, beq_self_eq_true]
      · have hname : Xml.Name.plain key ≠ Xml.Name.plain a.1 := fun hn =>
          h (congrArg Xml.Name.localName hn)
        rw [beq_eq_false_iff_ne.mpr h, beq_eq_false_iff_ne.mpr hname]
    rw [List.map_cons, List.lookup_cons, List.lookup_cons, hkey, ih]

theorem find?_givenPart (name other : String) (t : Option TrimmedText) :
    (givenPart name t).find? (fun e => e.name == .plain other) =
      if name = other then t.map fun t => ⟨.plain name, [], [.text t.text]⟩ else none := by
  have hname : (Xml.Name.plain name == Xml.Name.plain other) = decide (name = other) := by
    simp [Xml.Name.plain, beq_eq_decide]
  cases t with
  | none => simp [givenPart]
  | some t => by_cases h : name = other <;> simp [givenPart, hname, h]

/-- Description and plan of an element are those of its record. -/
theorem partText?_element (r : Record) :
    partText? r.element "description" = r.description.map TrimmedText.text ∧
      partText? r.element "plan" = r.plan.map TrimmedText.text := by
  have hchild : ∀ name, r.element.child? name =
      ((givenPart "description" r.description).find? fun e => e.name == .plain name).or
        ((givenPart "plan" r.plan).find? fun e => e.name == .plain name) := by
    intro name
    rw [Xml.Element.child?, Record.element, elements_of_parts, List.find?_append]
  constructor
  · rw [partText?, hchild, find?_givenPart, find?_givenPart, if_pos rfl, if_neg (by decide),
      Option.or_none]
    cases r.description with
    | none => rfl
    | some t => exact congrArg some (strip_trimmed t)
  · rw [partText?, hchild, find?_givenPart, find?_givenPart, if_neg (by decide), if_pos rfl,
      Option.none_or]
    cases r.plan with
    | none => rfl
    | some t => exact congrArg some (strip_trimmed t)

theorem nonEmpty_of_ne {s : Option String} (h : s ≠ some "") : nonEmpty s = s := by
  cases s with
  | none => rfl
  | some s =>
    have hs : s ≠ "" := fun hs => h (congrArg some hs)
    simp [nonEmpty, hs]

/-- **The item of a record** mirrors its element. -/
theorem mirrors_element (r : Record) (source : Option String) :
    Mirrors source r.element (r.item source) := by
  have hattribute : ∀ key, r.element.attribute? key =
      (("id", r.id) :: (given "version" r.version ++ given "name" r.name)).lookup key :=
    attribute?_plain _ _ _
  have hid : itemName? r.element = some r.id := by
    have hne := r.id_ne
    simp [itemName?, hattribute, List.lookup_cons, nonEmpty, hne]
  have hversion : nonEmpty (r.element.attribute? "version") = r.version := by
    have hlookup : r.element.attribute? "version" = r.version := by
      simp [hattribute, List.lookup_cons, List.lookup_append, lookup_given]
    rw [hlookup, nonEmpty_of_ne r.version_ne]
  have hname : r.element.attribute? "name" = r.name := by
    simp [hattribute, List.lookup_cons, List.lookup_append, lookup_given]
  obtain ⟨hdescription, hplan⟩ := partText?_element r
  refine ⟨rfl, hid, ?_, hname.symm, hdescription.symm, ?_, rfl⟩
  · rw [hversion]
    rfl
  · rw [hplan]
    rfl

theorem legacyType?_element (r : Record) : legacyType? r.element = some r.kind :=
  legacyType?_eq_some_iff.mpr rfl

theorem isItem_element (r : Record) : isItem r.element = true :=
  isItem_iff.mpr ⟨r.kind, legacyType?_element r⟩

/-- All elements of records are read, and nothing is left out. -/
theorem legacyItems_records (records : List Record) (source : Option String) (count : Nat) :
    legacyItems w source count (records.map Record.element) =
      (.ok (records.map (Record.item · source)), []) := by
  refine Prod.ext ?_ ?_
  · have hall : (records.map Record.element).filter isItem = records.map Record.element :=
      List.filter_eq_self.mpr (List.forall_mem_map.mpr fun r _ => isItem_element r)
    rw [legacyItems_eq_ok_iff, hall, List.forall₂_map_left_iff, List.forall₂_map_right_iff,
      List.forall₂_same]
    exact fun r _ => mirrors_element r source
  · refine List.eq_nil_iff_forall_not_mem.mpr fun note hnote => ?_
    obtain ⟨-, e, he, hsilent, -⟩ := legacyItems_notes count _ note hnote
    obtain ⟨r, -, rfl⟩ := List.mem_map.mp he
    rw [speaks, isItem_element] at hsilent
    cases hsilent

/-- **The legacy document** of records holds their items, and nothing is said about it. -/
theorem legacyOfTree_records (records : List Record) (source : Option String) :
    legacyOfTree w (legacyTree records) source =
      (.ok ⟨none, none, none, source, records.map (Record.item · source)⟩, []) := by
  have helements : (legacyTree records).elements = records.map Record.element := by
    have hparts : (records.map fun r => partOf r.element) =
        (records.map Record.element).map partOf := by
      rw [List.map_map]
      rfl
    rw [legacyTree, hparts, elements_of_parts]
  have hdescription : partText? (legacyTree records) "description" = none := by
    have hnone : (legacyTree records).child? "description" = none := by
      rw [Xml.Element.child?, helements]
      refine List.find?_eq_none.mpr fun e he => ?_
      obtain ⟨r, -, rfl⟩ := List.mem_map.mp he
      rw [name_ne_of_legacyType? (legacyType?_element r)]
      decide
    rw [partText?, hnone]
    rfl
  have hroot : ((legacyTree records).name == Xml.Name.plain sectionKey) = true := rfl
  rw [legacyOfTree, if_pos hroot, helements, legacyItems_records, hdescription]
  rfl

/-- **Migration keeps the items.** For all records, the legacy document and the structured document
are both read, with the same items in the same order, which are those of the records, with the same
source; and nothing is left out of the legacy document. -/
theorem migration_keeps_items (records : List Record) (source : Option String) (w : Wording) :
    ∃ d, legacyOfTree w (legacyTree records) source = (.ok d, []) ∧
      itemsOfValue w (structuredValue records) source = .ok d.items ∧
      d.items = records.map (Record.item · source) :=
  ⟨_, legacyOfTree_records records source, itemsOfValue_records records source, rfl⟩

end ItemCatalog.Document
