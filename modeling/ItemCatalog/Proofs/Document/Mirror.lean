import ItemCatalog.Document.Legacy
import ItemCatalog.Proofs.Document.Building
import ItemCatalog.Proofs.Document.Reporting
import Mathlib.Data.List.Forall2

/-! # Mirror: the items of a legacy document

The items of a legacy document mirror the elements under its root that are named after a kind of
item, one by one and in their order (`Mirrors`), and reading fails only for an element that has
neither an id nor a type. Every other part under the root but a description is silent: it may be put
in or taken out anywhere, and only the notes about what is left out tell the difference
(`legacy_mirrors`). -/

namespace ItemCatalog.Document

variable {w : Wording}

/-! ### Elements -/

/-- An element is named after a kind of item. -/
def isItem (e : Xml.Element) : Bool :=
  ItemType.all.any fun kind => e.name == .plain kind.name

/-- What an element says counts: it is named after a kind of item, or it is a description. -/
def speaks (e : Xml.Element) : Bool :=
  isItem e || e.name == .plain "description"

/-- The name of the item of an element: its id or, if it has none, its type. -/
def itemName? (e : Xml.Element) : Option String :=
  (nonEmpty (e.attribute? "id")).or (nonEmpty (e.attribute? "type"))

/-- **An item mirrors an element** that is named after its kind. It has the name of the element and
its version, or the default; the name for readers is an attribute, the description and the plan are
parts, and the source is that of the document. -/
structure Mirrors (source : Option String) (e : Xml.Element) (i : Item) : Prop where
  itemType : e.name = .plain i.itemType.name
  symbolicName : itemName? e = some i.symbolicName
  version : i.version = (nonEmpty (e.attribute? "version")).getD defaultVersion
  displayName : i.displayName = e.attribute? "name"
  description : i.description = partText? e "description"
  plan : i.plan = textOrNull (partText? e "plan")
  source : i.source = source

theorem legacyType?_eq_some_iff {e : Xml.Element} {kind : ItemType} :
    legacyType? e = some kind ↔ e.name = .plain kind.name := by
  obtain ⟨⟨space, localName⟩, attributes, children⟩ := e
  rw [legacyType?, Xml.Name.plain, Xml.Name.mk.injEq]
  cases space with
  | none => exact ofName?_eq_some_iff.trans (and_iff_right rfl).symm
  | some uri => exact ⟨nofun, fun h => nomatch h.1⟩

theorem isItem_iff {e : Xml.Element} : isItem e = true ↔ ∃ kind, legacyType? e = some kind := by
  simp only [legacyType?_eq_some_iff]
  rw [isItem, List.any_eq_true]
  constructor
  · rintro ⟨kind, -, h⟩
    exact ⟨kind, beq_iff_eq.mp h⟩
  · rintro ⟨kind, h⟩
    exact ⟨kind, by cases kind <;> decide, beq_iff_eq.mpr h⟩

theorem isItem_eq_false_iff {e : Xml.Element} : isItem e = false ↔ legacyType? e = none := by
  rw [← Bool.not_eq_true, isItem_iff, not_exists, Option.eq_none_iff_forall_ne_some]

/-- No kind of item is called a description. -/
theorem name_ne_of_legacyType? {e : Xml.Element} {kind : ItemType}
    (h : legacyType? e = some kind) : (e.name == Xml.Name.plain "description") = false := by
  rw [legacyType?_eq_some_iff.mp h]
  cases kind <;> rfl

/-! ### Items -/

theorem spellsName_textOrNull {o : Option String} {s : String} :
    SpellsName (textOrNull o) s ↔ o = some s := by
  cases o with
  | none =>
    refine iff_of_false (fun h => ?_) nofun
    cases h with
    | spelled h => cases h
  | some t =>
    rw [Option.some.injEq, eq_comm]
    exact spellsName_text_iff

theorem or_nonEmpty_eq_some_iff {a b : Option String} {s : String} :
    (nonEmpty a).or b = some s ∧ s ≠ "" ↔ (nonEmpty a).or (nonEmpty b) = some s := by
  cases ha : nonEmpty a with
  | some t =>
    have ht : t ≠ "" := by simpa using (Option.filter_eq_some_iff.mp ha).2
    constructor
    · exact fun h => h.1
    · intro h
      obtain rfl : t = s := Option.some.inj h
      exact ⟨rfl, ht⟩
  | none =>
    rw [Option.none_or, Option.none_or, nonEmpty, Option.filter_eq_some_iff]
    simp

section Fields

variable {e : Xml.Element} {kind : ItemType} {i : Item}

theorem symbolicName_legacyFields : (∃ v, ((legacyFields e kind).get? "id").or
    ((legacyFields e kind).get? "symbolic_name") = some v ∧
      SpellsName v i.symbolicName ∧ i.symbolicName ≠ "") ↔ itemName? e = some i.symbolicName := by
  have hid : (legacyFields e kind).get? "id" =
      some (textOrNull ((nonEmpty (e.attribute? "id")).or (e.attribute? "type"))) := rfl
  rw [hid, itemName?, ← or_nonEmpty_eq_some_iff, ← spellsName_textOrNull]
  simp only [Option.some_or, Option.some.injEq, exists_eq_left']

theorem version_legacyFields : (match (legacyFields e kind).get? "version" with
    | some v => SpellsName v i.version
    | none => i.version = defaultVersion) ↔
      i.version = (nonEmpty (e.attribute? "version")).getD defaultVersion := by
  have hget : (legacyFields e kind).get? "version" =
      (nonEmpty (e.attribute? "version")).map Value.text := by
    rw [legacyFields]
    cases nonEmpty (e.attribute? "version") <;> rfl
  rw [hget]
  cases nonEmpty (e.attribute? "version") with
  | none => exact Iff.rfl
  | some s => exact spellsName_text_iff

/-- **The item of an element** is built if it mirrors the element. -/
theorem buildItem_legacyFields (h : legacyType? e = some kind) {source : Option String}
    {place : String} : buildItem w (legacyFields e kind) source place = .ok i ↔
      Mirrors source e i := by
  have hname := legacyType?_eq_some_iff.mp h
  have htype : (match (legacyFields e kind).get? "item_type" with
      | some v => Spells v i.itemType.name
      | none => i.itemType = .entity) ↔ e.name = .plain i.itemType.name := by
    rw [hname]
    refine spells_text_iff.trans ⟨fun h => ?_, fun h => ?_⟩
    · rw [h]
    · exact (congrArg Xml.Name.localName h).symm
  have hplan : ((legacyFields e kind).get? "item").or ((legacyFields e kind).get? "plan") =
      some (textOrNull (partText? e "plan")) := rfl
  rw [buildItem_eq_ok_iff]
  constructor
  · rintro ⟨hd, hsource⟩
    refine ⟨htype.mp hd.itemType, symbolicName_legacyFields.mp hd.symbolicName,
      version_legacyFields.mp hd.version, spellsOptional_sourceValue.mp hd.displayName,
      spellsOptional_sourceValue.mp hd.description, ?_, hsource⟩
    rw [hd.plan, hplan, Option.getD_some]
  · intro hm
    refine ⟨⟨symbolicName_legacyFields.mpr hm.symbolicName, version_legacyFields.mpr hm.version,
      spellsOptional_sourceValue.mpr hm.displayName,
      spellsOptional_sourceValue.mpr hm.description, htype.mpr hm.itemType, ?_⟩, hm.source⟩
    rw [hm.plan, hplan, Option.getD_some]

end Fields

/-- An element that is named after a kind is mirrored by an item if it has a name. -/
theorem exists_mirrors_iff {e : Xml.Element} (h : isItem e = true) {source : Option String} :
    (∃ i, Mirrors source e i) ↔ itemName? e ≠ none := by
  obtain ⟨kind, hkind⟩ := isItem_iff.mp h
  constructor
  · rintro ⟨i, hi⟩
    rw [hi.symbolicName]
    exact nofun
  · intro hname
    obtain ⟨s, hs⟩ := Option.ne_none_iff_exists'.mp hname
    exact ⟨⟨s, _, _, _, kind, _, source⟩, legacyType?_eq_some_iff.mp hkind, hs, rfl, rfl, rfl, rfl,
      rfl⟩

/-! ### The elements under the root -/

section Elements

variable {source : Option String} {e : Xml.Element}

theorem legacyItems_cons_silent (h : isItem e = false) (count : Nat) (rest : List Xml.Element) :
    (legacyItems w source count (e :: rest)).1 = (legacyItems w source count rest).1 := by
  rw [legacyItems, isItem_eq_false_iff.mp h]
  split <;> rfl

theorem legacyItems_cons_item {kind : ItemType} (h : legacyType? e = some kind) (count : Nat)
    (rest : List Xml.Element) : (legacyItems w source count (e :: rest)).1 = (do
      let item ← buildItem w (legacyFields e kind) source s!"<{kind.name}> #{count}"
      return item :: (← (legacyItems w source (count + 1) rest).1)) := by
  rw [legacyItems, name_ne_of_legacyType? h, h]
  simp only [Bool.false_eq_true, if_false]
  rcases buildItem w (legacyFields e kind) source s!"<{kind.name}> #{count}" with fault | item
  · rfl
  · rcases legacyItems w source (count + 1) rest with ⟨fault | items, log⟩ <;> rfl

/-- **Only the elements that are named after a kind matter:** the others are not even counted. -/
theorem legacyItems_filter (count : Nat) (es : List Xml.Element) :
    (legacyItems w source count es).1 = (legacyItems w source count (es.filter isItem)).1 := by
  induction es generalizing count with
  | nil => rfl
  | cons e rest ih =>
    cases hitem : isItem e with
    | false =>
      rw [List.filter_cons_of_neg (by rw [hitem]; exact nofun), legacyItems_cons_silent hitem, ih]
    | true =>
      -- The count goes on from here on both sides.
      obtain ⟨kind, hkind⟩ := isItem_iff.mp hitem
      rw [List.filter_cons_of_pos hitem, legacyItems_cons_item hkind, legacyItems_cons_item hkind,
        ih]

/-- **The items** mirror the elements that are named after a kind, by induction on the elements. -/
theorem legacyItems_eq_ok_iff (count : Nat) (es : List Xml.Element) (items : List Item) :
    (legacyItems w source count es).1 = .ok items ↔
      List.Forall₂ (Mirrors source) (es.filter isItem) items := by
  induction es generalizing count items with
  | nil =>
    rw [List.filter_nil, List.forall₂_nil_left_iff]
    exact ⟨fun h => (Except.ok.inj h).symm, fun h => congrArg Except.ok h.symm⟩
  | cons e rest ih =>
    cases hitem : isItem e with
    | false =>
      rw [List.filter_cons_of_neg (by rw [hitem]; exact nofun), legacyItems_cons_silent hitem, ih]
    | true =>
      obtain ⟨kind, hkind⟩ := isItem_iff.mp hitem
      rw [List.filter_cons_of_pos hitem, legacyItems_cons_item hkind, cons_eq_ok_iff,
        List.forall₂_cons_left_iff]
      simp only [buildItem_legacyFields hkind, ih]

theorem legacyItems_reports (count : Nat) (es : List Xml.Element) :
    FaultsAre (IsReport source) (legacyItems w source count es).1 := by
  induction es generalizing count with
  | nil => exact .pure []
  | cons e rest ih =>
    cases hitem : isItem e with
    | false =>
      rw [legacyItems_cons_silent hitem]
      exact ih count
    | true =>
      obtain ⟨kind, hkind⟩ := isItem_iff.mp hitem
      rw [legacyItems_cons_item hkind]
      exact .bind (buildItem_reports _ _) fun _ _ => .bind (ih _) fun _ _ => .pure _

theorem exists_forall₂_iff {α β : Type} {R : α → β → Prop} {as : List α} :
    (∃ bs, List.Forall₂ R as bs) ↔ ∀ a ∈ as, ∃ b, R a b := by
  induction as with
  | nil => exact iff_of_true ⟨[], .nil⟩ nofun
  | cons a as ih =>
    rw [List.forall_mem_cons, ← ih]
    constructor
    · rintro ⟨_, hall⟩
      cases hall with
      | cons hab hrest => exact ⟨⟨_, hab⟩, _, hrest⟩
    · rintro ⟨⟨b, hab⟩, bs, hbs⟩
      exact ⟨b :: bs, .cons hab hbs⟩

/-- **Reading fails** exactly if an element that is named after a kind has no name for its item. -/
theorem legacyItems_fails_iff (count : Nat) (es : List Xml.Element) :
    (∃ fault, (legacyItems w source count es).1 = .error fault) ↔
      ∃ e ∈ es, isItem e = true ∧ itemName? e = none := by
  have hread : (∃ items, (legacyItems w source count es).1 = .ok items) ↔
      ∀ e ∈ es, isItem e = true → itemName? e ≠ none := by
    simp only [legacyItems_eq_ok_iff, exists_forall₂_iff, List.mem_filter]
    exact ⟨fun h e he hitem => (exists_mirrors_iff hitem).mp (h e ⟨he, hitem⟩),
      fun h e he => (exists_mirrors_iff he.2).mpr (h e he.1 he.2)⟩
  -- Reading ends one way or the other.
  have hfails : (∃ fault, (legacyItems w source count es).1 = .error fault) ↔
      ¬ ∃ items, (legacyItems w source count es).1 = .ok items := by
    cases (legacyItems w source count es).1 with
    | error fault => exact iff_of_true ⟨fault, rfl⟩ nofun
    | ok items => exact iff_of_false nofun (not_not_intro ⟨items, rfl⟩)
  rw [hfails, hread]
  push Not
  rfl

/-- **The notes** are details about elements that say nothing, by induction on the elements. -/
theorem legacyItems_notes (count : Nat) (es : List Xml.Element) :
    ∀ r ∈ (legacyItems w source count es).2, r.level = Log.debug ∧
      ∃ e ∈ es, speaks e = false ∧ r = ignoredNote e source := by
  induction es generalizing count with
  | nil => exact nofun
  | cons e rest ih =>
    have hrest : ∀ count, ∀ r ∈ (legacyItems w source count rest).2, r.level = Log.debug ∧
        ∃ e' ∈ e :: rest, speaks e' = false ∧ r = ignoredNote e' source := by
      intro count r hr
      obtain ⟨hlevel, e', he', h⟩ := ih count r hr
      exact ⟨hlevel, e', List.mem_cons_of_mem _ he', h⟩
    rw [legacyItems]
    split_ifs with hdescription
    · exact hrest count
    · split
      · rename_i htype
        have hsilent : speaks e = false := by
          rw [speaks, isItem_eq_false_iff.mpr htype, Bool.false_or]
          exact Bool.eq_false_iff.mpr hdescription
        exact List.forall_mem_cons.mpr ⟨⟨rfl, e, List.mem_cons_self, hsilent, rfl⟩, hrest count⟩
      · split
        · exact nofun
        · exact hrest (count + 1)

end Elements

/-! ### Silent parts -/

/-- A part of a root says something: it is an element that does. -/
def partSpeaks (p : Xml.Node) : Bool :=
  p.asElement?.any speaks

/-- **Two roots say the same:** they have the same name and attributes, and they are the same
without their silent parts. So any silent parts may have been put in or taken out anywhere. -/
structure SpeakAlike (root root' : Xml.Element) : Prop where
  name : root.name = root'.name
  attributes : root.attributes = root'.attributes
  children : root.children.filter partSpeaks = root'.children.filter partSpeaks

/-- Silent parts that are put in somewhere make no difference. -/
theorem SpeakAlike.insert (name : Xml.Name) (attributes : List (Xml.Name × String))
    (before after : List Xml.Node) {parts : List Xml.Node}
    (h : ∀ p ∈ parts, partSpeaks p = false) :
    SpeakAlike ⟨name, attributes, before ++ after⟩
      ⟨name, attributes, before ++ parts ++ after⟩ where
  name := rfl
  attributes := rfl
  children := by
    have hsilent : parts.filter partSpeaks = [] :=
      List.filter_eq_nil_iff.mpr fun p hp => by rw [h p hp]; exact nofun
    rw [List.filter_append, List.filter_append, List.filter_append, hsilent, List.append_nil]

theorem elements_filter_speaks (e : Xml.Element) :
    e.elements.filter speaks = (e.children.filter partSpeaks).filterMap Xml.Node.asElement? := by
  rw [Xml.Element.elements]
  induction e.children with
  | nil => rfl
  | cons p rest ih =>
    rw [List.filterMap_cons, List.filter_cons, partSpeaks]
    cases hp : p.asElement? with
    | none => exact ih
    | some c =>
      simp only [Option.any_some, List.filter_cons, ih]
      split_ifs
      · rw [List.filterMap_cons, hp]
      · rfl

theorem SpeakAlike.elements {root root' : Xml.Element} (h : SpeakAlike root root') :
    root.elements.filter speaks = root'.elements.filter speaks := by
  rw [elements_filter_speaks, elements_filter_speaks, h.children]

theorem filter_isItem (es : List Xml.Element) :
    es.filter isItem = (es.filter speaks).filter isItem := by
  rw [List.filter_filter]
  refine List.filter_congr fun e _ => ?_
  rw [speaks]
  cases isItem e <;> rfl

theorem child?_description (e : Xml.Element) : e.child? "description" =
    (e.elements.filter speaks).find? fun c => c.name == Xml.Name.plain "description" := by
  rw [Xml.Element.child?, List.find?_filter]
  congr 1
  funext c
  -- A description passes the filter.
  rw [speaks]
  by_cases hc : c.name = Xml.Name.plain "description" <;> simp [hc]

/-! ### Documents -/

section Documents

variable {root : Xml.Element} (hroot : root.name = .plain sectionKey) (source : Option String)

include hroot

theorem legacyOfTree_of_root : legacyOfTree w root source =
    ((legacyItems w source 0 root.elements).1.map fun items =>
      ⟨root.attribute? "id", root.attribute? "name", partText? root "description", source, items⟩,
    (legacyItems w source 0 root.elements).2) := by
  rw [legacyOfTree, hroot, if_pos (beq_self_eq_true _)]

/-- **The document of a root** is what the root says about it, with items that mirror the elements
that are named after a kind. -/
theorem legacyOfTree_eq_ok_iff (d : LegacyDocument) : (legacyOfTree w root source).1 = .ok d ↔
    (d.id = root.attribute? "id" ∧ d.name = root.attribute? "name" ∧
      d.description = partText? root "description" ∧ d.source = source) ∧
    List.Forall₂ (Mirrors source) (root.elements.filter isItem) d.items := by
  rw [legacyOfTree_of_root hroot, ← legacyItems_eq_ok_iff (w := w) 0]
  obtain ⟨id, name, description, label, items⟩ := d
  cases (legacyItems w source 0 root.elements).1 with
  | error fault => exact iff_of_false nofun fun h => nomatch h.2
  | ok read =>
    constructor
    · intro h
      cases h
      exact ⟨⟨rfl, rfl, rfl, rfl⟩, rfl⟩
    · rintro ⟨⟨rfl, rfl, rfl, rfl⟩, h⟩
      cases h
      rfl

/-- A document without its silent parts is the same. -/
theorem legacyOfTree_congr {root' : Xml.Element} (h : SpeakAlike root root') :
    (legacyOfTree w root source).1 = (legacyOfTree w root' source).1 := by
  have hitems : (legacyItems w source 0 root.elements).1 =
      (legacyItems w source 0 root'.elements).1 := by
    rw [legacyItems_filter, filter_isItem, h.elements, ← filter_isItem, ← legacyItems_filter]
  have hdescription : partText? root "description" = partText? root' "description" := by
    rw [partText?, partText?, child?_description, child?_description, h.elements]
  rw [legacyOfTree_of_root hroot, legacyOfTree_of_root (h.name ▸ hroot)]
  simp only [hitems, hdescription, Xml.Element.attribute?, h.attributes]

end Documents

/-- **Legacy items mirror the elements** under the root that are named after a kind of item, and the
rest of the document is what the root says about it. Reading fails, with a report, exactly if one of
these elements has neither an id nor a type. A root that says the same comes to the same document or
the same fault; what is noted are details about elements that say nothing. -/
theorem legacy_mirrors {root : Xml.Element} (hroot : root.name = .plain sectionKey)
    (source : Option String) :
    (∀ d, (legacyOfTree w root source).1 = .ok d ↔
      (d.id = root.attribute? "id" ∧ d.name = root.attribute? "name" ∧
        d.description = partText? root "description" ∧ d.source = source) ∧
      List.Forall₂ (Mirrors source) (root.elements.filter isItem) d.items) ∧
    ((∃ fault, (legacyOfTree w root source).1 = .error fault) ↔
      ∃ e ∈ root.elements, isItem e = true ∧ itemName? e = none) ∧
    FaultsAre (IsReport source) (legacyOfTree w root source).1 ∧
    (∀ root', SpeakAlike root root' →
      (legacyOfTree w root' source).1 = (legacyOfTree w root source).1) ∧
    ∀ r ∈ (legacyOfTree w root source).2, r.level = Log.debug ∧
      ∃ e ∈ root.elements, speaks e = false ∧ r = ignoredNote e source := by
  refine ⟨legacyOfTree_eq_ok_iff hroot source, ?_, ?_,
    fun root' h => (legacyOfTree_congr hroot source h).symm, ?_⟩
  · rw [legacyOfTree_of_root hroot, ← legacyItems_fails_iff (w := w) 0]
    cases (legacyItems w source 0 root.elements).1 with
    | error fault => exact iff_of_true ⟨fault, rfl⟩ ⟨fault, rfl⟩
    | ok items => exact iff_of_false nofun nofun
  · rw [legacyOfTree_of_root hroot]
    exact (legacyItems_reports 0 root.elements).map
  · rw [legacyOfTree_of_root hroot]
    exact legacyItems_notes 0 root.elements

/-- **Which document a legacy text gives** does not depend on how the readers word what is wrong. -/
theorem legacyDocument_eq_ok_congr (w w' : Wording) (text : String) (source : Option String)
    (d : LegacyDocument) :
    (legacyDocument text source w).1 = .ok d ↔ (legacyDocument text source w').1 = .ok d := by
  rw [legacyDocument, legacyDocument]
  cases Xml.read text with
  | none => exact iff_of_false nofun nofun
  | some root =>
    by_cases hroot : root.name = .plain sectionKey
    · exact (legacyOfTree_eq_ok_iff hroot source d).trans
        (legacyOfTree_eq_ok_iff hroot source d).symm
    · have hname : (root.name == Xml.Name.plain sectionKey) = false :=
        beq_eq_false_iff_ne.mpr hroot
      simp only [legacyOfTree, hname, Bool.false_eq_true, if_false]

/-- An entity with a type and no id. -/
def typedEntity : Xml.Node :=
  .element (.plain "entity") [(.plain "type", "a")] []

/-- The entity is read under its type, and an instruction and an unknown element in front of it make
no difference. -/
theorem legacy_mirrors_of_typedEntity :
    (legacyOfTree .brief ⟨.plain "catalog", [], [typedEntity]⟩ none).1 =
      .ok { items := [{ symbolicName := "a" }] } ∧
    (legacyOfTree .brief ⟨.plain "catalog", [],
      [.instruction, .element (.plain "widget") [] [], typedEntity]⟩ none).1 =
      .ok { items := [{ symbolicName := "a" }] } := by
  have hroot : Xml.Element.name ⟨.plain "catalog", [], [typedEntity]⟩ = .plain sectionKey := rfl
  obtain ⟨hread, -, -, hsilent, -⟩ := legacy_mirrors hroot none
  have hentity := (hread { items := [{ symbolicName := "a" }] }).mpr
    ⟨⟨rfl, rfl, rfl, rfl⟩, .cons ⟨rfl, rfl, rfl, rfl, rfl, rfl, rfl⟩ .nil⟩
  have hparts : ∀ p ∈ [Xml.Node.instruction, .element (.plain "widget") [] []],
      partSpeaks p = false :=
    List.forall_mem_cons.mpr ⟨rfl, List.forall_mem_singleton.mpr rfl⟩
  refine ⟨hentity, ?_⟩
  rw [← hentity]
  exact hsilent _ (.insert _ _ [] [typedEntity] hparts)

end ItemCatalog.Document
