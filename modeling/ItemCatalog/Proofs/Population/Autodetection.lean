import ItemCatalog.Proofs.Population.BestEffort

/-! # Autodetection: a text without a given form

A load that may try both forms of text does what the loads that may try one form do. If the text
loads as a structured text, the load of either form is the load of that form, and the reader of
legacy documents is not asked: it could be any reader. Otherwise the legacy document that loads is
the one that loads alone, with the problem of the structured text beside it; and if there is none,
what is left and the problem are those of the structured text.

* `loadInitialBy_of_items`, `loadInitial_of_document`, `loadInitial_of_neither`: a load by what its
  readers give;
* `autodetect_of_items`, `autodetect_of_document`, `autodetect_of_failures`: the three loads of one
  text compared;
* `autodetect_agrees`: the three loads of one address compared. -/

namespace ItemCatalog.Population

open Step Document Catalog

/-! ### Any reader of legacy documents -/

/-- A reader of legacy documents: from a text and its source to a document and what is noted. -/
abbrev LegacyReader :=
  String → Option String → Except Fault LegacyDocument × List Log.Record

variable {w : Wording}

/-- A legacy document tried by a reader. -/
def Load.tryLegacyBy (read : LegacyReader) (l : Load) (text : String) : Load :=
  match read text (some l.result.uri) with
  | (.ok d, log) =>
    let catalog := Catalog.ofDocument d
    { result := { l.result with document := some d }, catalog
      log := l.log ++ log ++ [catalog.resetNote] }
  | (.error e, log) => { l with result := l.result.note e, log := l.log ++ log }

/-- The forms of text tried that the mode allows, legacy documents by a reader. -/
def Load.attemptsBy (w : Wording) (read : LegacyReader) (l : Load) (text : String) : Load :=
  let l := if l.result.mode.allowsYaml then l.tryStructured w text else l
  if l.result.items.isNone && l.result.mode.allowsXml then l.tryLegacyBy read text else l

/-- A load that reads legacy documents by a reader. -/
def loadInitialBy (w : Wording) (read : LegacyReader) (c : Catalog) (uri : String)
    (mode : PopulateMode) (content : Except Fault String) :
    Except Fault LoadResult × Catalog × List Log.Record :=
  let start : Load := { result := { uri, mode }, catalog := c }
  match content with
  | .ok text =>
    let l := (start.attemptsBy w read text).finish
    (.ok l.result, l.catalog, l.log)
  | .error e =>
    if e.isFatal then (.error e, c, [])
    else
      let l := { start with result := start.result.note e }.finish
      (.ok l.result, l.catalog, l.log)

/-- The reader of legacy documents in a wording. -/
def legacyReader (w : Wording) : LegacyReader :=
  fun text source => legacyDocument text source w

/-- The load is the one by the reader of legacy documents. -/
theorem loadInitialBy_legacyReader (c : Catalog) (uri : String) (mode : PopulateMode)
    (content : Except Fault String) :
    loadInitialBy w (legacyReader w) c uri mode content = loadInitial c uri mode content w := rfl

/-! ### What a load does by its readers -/

/-- What a structured text gives, tried in an emptied catalog, and what it leaves there. -/
def structuredTry (w : Wording) (uri text : String) : Except Fault (List Item) × Catalog :=
  Catalog.empty.addItems text false (some uri) w

section Readers

variable {c left : Catalog} {uri text : String} {mode : PopulateMode} {items : List Item}
  {d : LegacyDocument} {e e' : Fault} {notes : List Log.Record}

/-- **A structured text that loads:** whatever reads legacy documents is not asked. -/
theorem loadInitialBy_of_items (read : LegacyReader) (hy : mode.allowsYaml = true)
    (hs : structuredTry w uri text = (.ok items, left)) :
    loadInitialBy w read c uri mode (.ok text) =
      (.ok { uri, mode, items := some items }, left,
        Catalog.empty.resetNote :: Load.endNotes { uri, mode, items := some items }) := by
  rw [structuredTry] at hs
  simp only [loadInitialBy, Load.attemptsBy, Load.tryStructured, hy, hs, if_true]
  rfl

/-- **A legacy document that loads** after a structured text did not: its problem stays. -/
theorem loadInitial_of_document (hy : mode.allowsYaml = true) (hx : mode.allowsXml = true)
    (hs : structuredTry w uri text = (.error e, left))
    (hl : legacyDocument text (some uri) w = (.ok d, notes)) :
    (loadInitial c uri mode (.ok text) w).1 =
        .ok { uri, mode, document := some d, problem := some e } ∧
      (loadInitial c uri mode (.ok text) w).2.1 = ofDocument d := by
  rw [structuredTry] at hs
  simp only [loadInitial, Load.attempts, Load.tryStructured, Load.tryLegacy, hy, hx, hs, hl,
    if_true, LoadResult.note]
  exact ⟨rfl, rfl⟩

/-- **A text that loads in no form**, the structured one among them: its problem stays, and so does
what it left. -/
theorem loadInitial_of_neither (hy : mode.allowsYaml = true)
    (hs : structuredTry w uri text = (.error e, left))
    (hl : mode.allowsXml = true → legacyDocument text (some uri) w = (.error e', notes)) :
    (loadInitial c uri mode (.ok text) w).1 = .ok { uri, mode, problem := some e } ∧
      (loadInitial c uri mode (.ok text) w).2.1 = left := by
  rw [structuredTry] at hs
  cases hx : mode.allowsXml with
  | true =>
    simp only [loadInitial, Load.attempts, Load.tryStructured, Load.tryLegacy, hy, hx, hs, hl hx,
      if_true, LoadResult.note]
    exact ⟨rfl, rfl⟩
  | false =>
    simp only [loadInitial, Load.attempts, Load.tryStructured, hy, hx, hs, if_true,
      LoadResult.note]
    exact ⟨rfl, rfl⟩

/-- A legacy document that is the only form tried. -/
theorem loadInitial_of_document_alone (hl : legacyDocument text (some uri) w = (.ok d, notes)) :
    (loadInitial c uri .xml (.ok text) w).1 = .ok { uri, mode := .xml, document := some d } ∧
      (loadInitial c uri .xml (.ok text) w).2.1 = ofDocument d := by
  have hy : PopulateMode.xml.allowsYaml = false := rfl
  have hx : PopulateMode.xml.allowsXml = true := rfl
  simp only [loadInitial, Load.attempts, Load.tryLegacy, hy, hx, hl, Bool.false_eq_true, if_false]
  exact ⟨rfl, rfl⟩

/-- A text that is no legacy document, where this is the only form tried. -/
theorem loadInitial_of_no_document (hl : legacyDocument text (some uri) w = (.error e', notes)) :
    (loadInitial c uri .xml (.ok text) w).1 = .ok { uri, mode := .xml, problem := some e' } := by
  have hy : PopulateMode.xml.allowsYaml = false := rfl
  have hx : PopulateMode.xml.allowsXml = true := rfl
  simp only [loadInitial, Load.attempts, Load.tryLegacy, hy, hx, hl, Bool.false_eq_true, if_false]
  rfl

end Readers

/-! ### Three loads compared -/

/-- Whether a load loaded something. -/
def hasLoaded (r : Except Fault LoadResult) : Bool :=
  match r with
  | .ok r => r.succeeded
  | .error _ => false

/-- What fails first in a load that may be of either form: the reading of the address, or the
structured text. -/
def FailsFirst (w : Wording) (content : Except Fault String) (uri : String) (e : Fault) : Prop :=
  content = .error e ∨ ∃ text, content = .ok text ∧ (structuredTry w uri text).1 = .error e

/-- The result under another mode. -/
def LoadResult.inMode (mode : PopulateMode) (r : LoadResult) : LoadResult :=
  { r with mode }

theorem hasLoaded_inMode (mode : PopulateMode) (r : Except Fault LoadResult) :
    hasLoaded (r.map (LoadResult.inMode mode)) = hasLoaded r := by
  cases r <;> rfl

/-- Without a text nothing is loaded, whatever the mode, and what came in its place is the problem
or gets out. -/
theorem loadInitial_of_no_text (c : Catalog) (uri : String) (mode : PopulateMode) (e : Fault)
    (w : Wording) :
    hasLoaded (loadInitial c uri mode (.error e) w).1 = false ∧
      (loadInitial c uri mode (.error e) w).2.1 = c ∧
      (loadInitial c uri mode (.error e) w).1.map LoadResult.problem =
        if e.isFatal then .error e else .ok (some e) := by
  obtain ⟨log, hload⟩ := loadInitial_of_failed_fetch c uri mode e w
  rw [hload]
  split_ifs
  · exact ⟨rfl, rfl, rfl⟩
  · exact ⟨rfl, rfl, rfl⟩

section Compared

variable {c left : Catalog} {uri text : String} {content : Except Fault String} {e : Fault}

/-- A structured text that does not load, where this is the only form tried. -/
theorem loadInitial_yaml_of_error (hs : structuredTry w uri text = (.error e, left)) :
    (loadInitial c uri .yaml (.ok text) w).1 = .ok { uri, mode := .yaml, problem := some e } ∧
      (loadInitial c uri .yaml (.ok text) w).2.1 = left := by
  have hnever : PopulateMode.yaml.allowsXml = true →
      legacyDocument text (some uri) w = (.error e, []) := fun h => by cases h
  exact loadInitial_of_neither rfl hs hnever

/-- The load of a structured text loads exactly if there is a text and it gives items. -/
theorem hasLoaded_yaml_iff : hasLoaded (loadInitial c uri .yaml content w).1 = true ↔
    ∃ text items left, content = .ok text ∧ structuredTry w uri text = (.ok items, left) := by
  cases content with
  | error e =>
    rw [(loadInitial_of_no_text c uri .yaml e w).1]
    exact ⟨fun h => absurd h Bool.false_ne_true, fun ⟨_, _, _, h, _⟩ => by cases h⟩
  | ok text =>
    rcases hs : structuredTry w uri text with ⟨e | items, left⟩
    · rw [(loadInitial_yaml_of_error hs).1]
      refine ⟨fun h => absurd h Bool.false_ne_true, fun ⟨_, _, _, h, h'⟩ => ?_⟩
      cases h
      cases hs.symm.trans h'
    · have hload : loadInitial c uri .yaml (.ok text) w = _ :=
        loadInitialBy_of_items (legacyReader w) rfl hs
      rw [hload]
      exact ⟨fun _ => ⟨text, items, left, rfl, hs⟩, fun _ => rfl⟩

/-- The load of a legacy document loads exactly if there is a text and it gives one. -/
theorem hasLoaded_xml_iff : hasLoaded (loadInitial c uri .xml content w).1 = true ↔
    ∃ text d notes, content = .ok text ∧ legacyDocument text (some uri) w = (.ok d, notes) := by
  cases content with
  | error e =>
    rw [(loadInitial_of_no_text c uri .xml e w).1]
    exact ⟨fun h => absurd h Bool.false_ne_true, fun ⟨_, _, _, h, _⟩ => by cases h⟩
  | ok text =>
    rcases hl : legacyDocument text (some uri) w with ⟨e | d, notes⟩
    · rw [loadInitial_of_no_document hl]
      refine ⟨fun h => absurd h Bool.false_ne_true, fun ⟨_, _, _, h, h'⟩ => ?_⟩
      cases h
      cases hl.symm.trans h'
    · rw [(loadInitial_of_document_alone hl).1]
      exact ⟨fun _ => ⟨text, d, notes, rfl, hl⟩, fun _ => rfl⟩

/-- **If a structured text loads,** the load that detects the form is that load, in what it gives,
leaves and says, and any reader of legacy documents could stand in its place. -/
theorem autodetect_of_items (hyaml : hasLoaded (loadInitial c uri .yaml content w).1 = true) :
    loadInitial c uri .autodetect content w =
        ((loadInitial c uri .yaml content w).1.map (LoadResult.inMode .autodetect),
          (loadInitial c uri .yaml content w).2) ∧
      (loadInitial c uri .autodetect content w).1.map LoadResult.document = .ok none ∧
      ∀ read, loadInitialBy w read c uri .autodetect content =
        loadInitial c uri .autodetect content w := by
  obtain ⟨text, items, left, rfl, hs⟩ := hasLoaded_yaml_iff.mp hyaml
  have hauto : ∀ read, loadInitialBy w read c uri .autodetect (.ok text) = _ := fun read =>
    loadInitialBy_of_items read rfl hs
  have hload : loadInitial c uri .autodetect (.ok text) w = _ := hauto (legacyReader w)
  have hstructured : loadInitial c uri .yaml (.ok text) w = _ :=
    loadInitialBy_of_items (legacyReader w) rfl hs
  refine ⟨?_, ?_, fun read => (hauto read).trans hload.symm⟩
  · rw [hstructured]
    exact hload
  · rw [hload]
    rfl

/-- **If only a legacy document loads,** the load that detects the form gives and leaves that
document, with the problem of the structured text. -/
theorem autodetect_of_document (hyaml : hasLoaded (loadInitial c uri .yaml content w).1 = false)
    (hxml : hasLoaded (loadInitial c uri .xml content w).1 = true) :
    hasLoaded (loadInitial c uri .autodetect content w).1 = true ∧
      (loadInitial c uri .autodetect content w).1.map LoadResult.items = .ok none ∧
      (loadInitial c uri .autodetect content w).1.map LoadResult.document =
        (loadInitial c uri .xml content w).1.map LoadResult.document ∧
      (∃ e, FailsFirst w content uri e ∧
        (loadInitial c uri .autodetect content w).1.map LoadResult.problem = .ok (some e) ∧
        (loadInitial c uri .yaml content w).1.map LoadResult.problem = .ok (some e)) ∧
      (loadInitial c uri .autodetect content w).2.1 = (loadInitial c uri .xml content w).2.1 := by
  obtain ⟨text, d, notes, rfl, hl⟩ := hasLoaded_xml_iff.mp hxml
  rcases hs : structuredTry w uri text with ⟨e | items, left⟩
  · obtain ⟨hresult, hleft⟩ := loadInitial_of_document (c := c)
      (rfl : PopulateMode.autodetect.allowsYaml = true) rfl hs hl
    obtain ⟨hdocument, hkept⟩ := loadInitial_of_document_alone (c := c) hl
    rw [hresult, hleft, hdocument, hkept, (loadInitial_yaml_of_error hs).1]
    exact ⟨rfl, rfl, rfl, ⟨e, Or.inr ⟨text, rfl, by rw [hs]⟩, rfl, rfl⟩, rfl⟩
  · rw [hasLoaded_yaml_iff.mpr ⟨text, items, left, rfl, hs⟩] at hyaml
    cases hyaml

/-- **If neither form loads,** what is left and the problem are those of the structured text. -/
theorem autodetect_of_failures (hyaml : hasLoaded (loadInitial c uri .yaml content w).1 = false)
    (hxml : hasLoaded (loadInitial c uri .xml content w).1 = false) :
    hasLoaded (loadInitial c uri .autodetect content w).1 = false ∧
      (loadInitial c uri .autodetect content w).2.1 = (loadInitial c uri .yaml content w).2.1 ∧
      (loadInitial c uri .autodetect content w).1.map LoadResult.problem =
        (loadInitial c uri .yaml content w).1.map LoadResult.problem ∧
      ∃ e, FailsFirst w content uri e ∧
        (loadInitial c uri .autodetect content w).1.map LoadResult.problem =
          if content.toOption.isNone && e.isFatal then .error e else .ok (some e) := by
  cases content with
  | error e =>
    obtain ⟨-, hleft, hproblem⟩ := loadInitial_of_no_text c uri .yaml e w
    obtain ⟨hfails, hkept, hrecorded⟩ := loadInitial_of_no_text c uri .autodetect e w
    exact ⟨hfails, hkept.trans hleft.symm, hrecorded.trans hproblem.symm, e, Or.inl rfl, hrecorded⟩
  | ok text =>
    rcases hs : structuredTry w uri text with ⟨e | items, left⟩
    · rcases hl : legacyDocument text (some uri) w with ⟨e' | d, notes⟩
      · obtain ⟨hresult, hleft⟩ := loadInitial_of_neither (c := c)
          (rfl : PopulateMode.autodetect.allowsYaml = true) hs fun _ => hl
        obtain ⟨hproblem, hkept⟩ := loadInitial_yaml_of_error (c := c) hs
        rw [hresult, hleft, hproblem, hkept]
        exact ⟨rfl, rfl, rfl, e, Or.inr ⟨text, rfl, by rw [hs]⟩, rfl⟩
      · rw [hasLoaded_xml_iff.mpr ⟨text, d, notes, rfl, hl⟩] at hxml
        cases hxml
    · rw [hasLoaded_yaml_iff.mpr ⟨text, items, left, rfl, hs⟩] at hyaml
      cases hyaml

end Compared

/-! ### Addresses -/

section Address

variable {name : CatalogName} {uri : String} {mode : PopulateMode} {l : Resource.Loader} {s : State}

theorem loadAddress_result (name : CatalogName) (uri : String) (mode : PopulateMode)
    (l : Resource.Loader) (s : State) : (loadAddress name uri mode l s).1 =
      (loadInitial (s.catalog name) uri mode (s.read l uri) s.around.wording).1.bind fun r =>
        r.told s.around.console := by
  rw [(loadAddress_comes name uri mode l s).result_eq, loadedAt_result]

theorem loadAddress_catalogs (name : CatalogName) (uri : String) (mode : PopulateMode)
    (l : Resource.Loader) (s : State) : (loadAddress name uri mode l s).2.catalogs =
      s.catalogs.set name
        (loadInitial (s.catalog name) uri mode (s.read l uri) s.around.wording).2.1 :=
  (loadAddress_comes name uri mode l s).catalogs_eq

theorem told_of_succeeded {r : LoadResult} (h : r.succeeded = true) (console : Log.Console) :
    r.told console = .ok r := by
  rw [LoadResult.told, LoadResult.refusal?, if_pos h]
  rfl

/-- A load that loaded something gives it, whatever the console takes. -/
theorem result_of_hasLoaded
    (h : hasLoaded (loadInitial (s.catalog name) uri mode (s.read l uri) s.around.wording).1 =
      true) :
    (loadAddress name uri mode l s).1 =
      (loadInitial (s.catalog name) uri mode (s.read l uri) s.around.wording).1 := by
  rw [loadAddress_result]
  cases hr : (loadInitial (s.catalog name) uri mode (s.read l uri) s.around.wording).1 with
  | error e => rfl
  | ok r =>
    rw [hr] at h
    exact told_of_succeeded h _

theorem hasLoaded_loadAddress : hasLoaded (loadAddress name uri mode l s).1 =
    hasLoaded (loadInitial (s.catalog name) uri mode (s.read l uri) s.around.wording).1 := by
  cases h : hasLoaded (loadInitial (s.catalog name) uri mode (s.read l uri) s.around.wording).1 with
  | true => rw [result_of_hasLoaded h, h]
  | false =>
    rw [loadAddress_result]
    cases hr : (loadInitial (s.catalog name) uri mode (s.read l uri) s.around.wording).1 with
    | error e => rfl
    | ok r =>
      rw [hr] at h
      show hasLoaded (r.told s.around.console) = false
      unfold LoadResult.told
      cases r.refusal? s.around.console with
      | none => exact h
      | some f => rfl

/-- A result is that of the load, where the console had its say. -/
theorem loaded_of_result {r : LoadResult} (hr : (loadAddress name uri mode l s).1 = .ok r) :
    (loadInitial (s.catalog name) uri mode (s.read l uri) s.around.wording).1 = .ok r := by
  rw [loadAddress_result] at hr
  cases hload : (loadInitial (s.catalog name) uri mode (s.read l uri) s.around.wording).1 with
  | error e =>
    rw [hload] at hr
    cases hr
  | ok r' =>
    rw [hload] at hr
    obtain ⟨rfl, -⟩ := told_eq_ok_iff.mp hr
    rfl

/-- The problem of a load that loaded nothing is recorded, if the console takes its warning. -/
theorem problem_of_failed
    (h : hasLoaded (loadInitial (s.catalog name) uri mode (s.read l uri) s.around.wording).1 =
      false) :
    (loadAddress name uri mode l s).1.map LoadResult.problem =
      ((loadInitial (s.catalog name) uri mode (s.read l uri) s.around.wording).1.map
        LoadResult.problem).bind
        fun problem => ((problem.bind fun e =>
          s.around.console.refusal? (Load.failureNote uri e)).elim (.ok problem) .error) := by
  rw [loadAddress_result]
  cases hr : (loadInitial (s.catalog name) uri mode (s.read l uri) s.around.wording).1 with
  | error e => rfl
  | ok r =>
    rw [hr] at h
    have hfailed : r.succeeded = false := h
    show (r.told s.around.console).map LoadResult.problem = _
    rw [LoadResult.told, LoadResult.refusal?, hfailed, loadInitial_uri hr]
    dsimp only [Except.map, Except.bind]
    cases r.problem.bind fun e => s.around.console.refusal? (Load.failureNote uri e) <;> rfl

end Address

/-- **A load that detects the form of a text** against the loads of one form, of the same address
and from the same state. If a structured text loads, it is that load, in what it gives and leaves,
and any reader of legacy documents could stand in its place. Otherwise, if a legacy document loads,
it gives and leaves that document, with the problem of the structured text. Otherwise nothing loads,
and what is left and the problem are those of the load of a structured text: both record what failed
first, unless no stage may record it, or the console does not take the warning of it, and then both
end with that fault. -/
theorem autodetect_agrees (name : CatalogName) (uri : String) (l : Resource.Loader) (s : State) :
    let yaml := loadAddress name uri .yaml l s
    let xml := loadAddress name uri .xml l s
    let auto := loadAddress name uri .autodetect l s
    (hasLoaded yaml.1 = true →
      auto = (yaml.1.map (LoadResult.inMode .autodetect), yaml.2) ∧
      auto.1.map LoadResult.document = .ok none ∧
      ∀ read, loadAddressBy (loadInitialBy s.around.wording read) name uri .autodetect l s =
        auto) ∧
    (hasLoaded yaml.1 = false → hasLoaded xml.1 = true →
      hasLoaded auto.1 = true ∧ auto.1.map LoadResult.items = .ok none ∧
      auto.1.map LoadResult.document = xml.1.map LoadResult.document ∧
      (∃ e, FailsFirst s.around.wording (s.read l uri) uri e ∧
        auto.1.map LoadResult.problem = .ok (some e)) ∧
      (∀ r, yaml.1 = .ok r → auto.1.map LoadResult.problem = .ok r.problem) ∧
      auto.2.catalogs = xml.2.catalogs) ∧
    (hasLoaded yaml.1 = false → hasLoaded xml.1 = false →
      hasLoaded auto.1 = false ∧ auto.2.catalogs = yaml.2.catalogs ∧
      auto.1.map LoadResult.problem = yaml.1.map LoadResult.problem ∧
      (∀ e, s.read l uri = .error e → e.isFatal = true → auto.1 = .error e) ∧
      ((∀ e, s.read l uri = .error e → e.isFatal = false) →
        ∃ e, FailsFirst s.around.wording (s.read l uri) uri e ∧ auto.1.map LoadResult.problem =
          (s.around.console.refusal? (Load.failureNote uri e)).elim (.ok (some e)) .error)) := by
  intro yaml xml auto
  simp only [yaml, xml, auto, hasLoaded_loadAddress, loadAddress_catalogs]
  refine ⟨fun hyaml => ?_, fun hyaml hxml => ?_, fun hyaml hxml => ?_⟩
  · obtain ⟨hsame, hnone, hread⟩ := autodetect_of_items hyaml
    have hauto : hasLoaded
        (loadInitial (s.catalog name) uri .autodetect (s.read l uri) s.around.wording).1 =
        true := by
      rw [hsame, hasLoaded_inMode, hyaml]
    refine ⟨?_, by rw [result_of_hasLoaded hauto, hnone], fun read => ?_⟩
    · refine Prod.ext ?_ ?_
      · rw [result_of_hasLoaded hauto, result_of_hasLoaded hyaml, hsame]
      · rw [loadAddress_run, loadAddress_run, hsame]
    · rw [← loadAddressBy_loading]
      exact loadAddressBy_congr (hread read)
  · obtain ⟨hauto, hnone, hsame, ⟨e, hfirst, hproblem, hproblem'⟩, hcatalog⟩ :=
      autodetect_of_document hyaml hxml
    rw [result_of_hasLoaded hauto, result_of_hasLoaded hxml, hcatalog]
    refine ⟨hauto, hnone, hsame, ⟨e, hfirst, hproblem⟩, fun r hr => ?_, rfl⟩
    rw [loaded_of_result hr] at hproblem'
    exact hproblem.trans hproblem'.symm
  · obtain ⟨hauto, hcatalog, hproblem, e, hfirst, he⟩ := autodetect_of_failures hyaml hxml
    refine ⟨hauto, by rw [hcatalog], ?_, fun e' hread hfatal => ?_, fun hordinary => ?_⟩
    · rw [problem_of_failed hauto, problem_of_failed hyaml, hproblem]
    · obtain ⟨log, hload⟩ := loadInitial_of_failed_fetch (s.catalog name) uri .autodetect e'
        s.around.wording
      rw [loadAddress_result, hread, hload, if_pos hfatal]
      rfl
    · refine ⟨e, hfirst, ?_⟩
      have hrecorded : ((s.read l uri).toOption.isNone && e.isFatal) = false := by
        rcases hfirst with hread | ⟨text, hread, -⟩
        · rw [hordinary e hread, Bool.and_false]
        · rw [hread]
          rfl
      rw [problem_of_failed hauto, he, hrecorded]
      rfl

/-- A loader with one handler, which gives the same for every address. -/
def loaderGiving (content : Except Fault String) : Resource.Loader :=
  { timeout := .null, handlers := [("mem", fun _ => content)] }

/-- A state with an empty catalog. -/
def emptyStart : State :=
  { catalogs := [.empty] }

/-- A loader that gives a structured text of one item. -/
def itemLoader : Resource.Loader := loaderGiving (.ok "catalog: \x7bid: a\x7d")

/-- A loader that gives a legacy document. -/
def elementsLoader : Resource.Loader := loaderGiving (.ok twoElements)

/-- A loader that gives a structured text with an identity that is repeated. -/
def twiceLoader : Resource.Loader := loaderGiving (.ok sameTwice)

/-- A loader that uses up the memory. -/
def fullLoader : Resource.Loader := loaderGiving (.error (.memory "full"))

/-- A text that loads as a structured text, one that loads as a legacy document, and one that loads
in neither form although it leaves an item. -/
theorem autodetect_agrees_three_texts :
    (loadAddress 0 "mem://a" .autodetect itemLoader emptyStart).2.catalogs =
        (loadAddress 0 "mem://a" .yaml itemLoader emptyStart).2.catalogs ∧
      (loadAddress 0 "mem://a" .autodetect elementsLoader emptyStart).2.catalogs =
        (loadAddress 0 "mem://a" .xml elementsLoader emptyStart).2.catalogs ∧
      hasLoaded (loadAddress 0 "mem://a" .autodetect twiceLoader emptyStart).1 = false ∧
      (loadAddress 0 "mem://a" .autodetect twiceLoader emptyStart).2.catalogs =
        (loadAddress 0 "mem://a" .yaml twiceLoader emptyStart).2.catalogs := by
  have hstructured : hasLoaded (loadAddress 0 "mem://a" .yaml itemLoader emptyStart).1 = true := by
    decide +kernel
  have hlegacy : hasLoaded (loadAddress 0 "mem://a" .yaml elementsLoader emptyStart).1 = false ∧
      hasLoaded (loadAddress 0 "mem://a" .xml elementsLoader emptyStart).1 = true := by
    decide +kernel
  have hneither : hasLoaded (loadAddress 0 "mem://a" .yaml twiceLoader emptyStart).1 = false ∧
      hasLoaded (loadAddress 0 "mem://a" .xml twiceLoader emptyStart).1 = false := by
    decide +kernel
  have hsame := (autodetect_agrees 0 "mem://a" itemLoader emptyStart).1 hstructured
  have hdocument := (autodetect_agrees 0 "mem://a" elementsLoader emptyStart).2.1
    hlegacy.1 hlegacy.2
  have hfails := (autodetect_agrees 0 "mem://a" twiceLoader emptyStart).2.2 hneither.1 hneither.2
  exact ⟨by rw [hsame.1], hdocument.2.2.2.2.2, hfails.1, hfails.2.1⟩

/-- Where the memory is used up while an address is read, no load of it records a problem. -/
theorem autodetect_of_exhausted_memory :
    hasLoaded (loadAddress 0 "mem://a" .yaml fullLoader emptyStart).1 = false ∧
      hasLoaded (loadAddress 0 "mem://a" .xml fullLoader emptyStart).1 = false ∧
      ¬ ∃ r, (loadAddress 0 "mem://a" .autodetect fullLoader emptyStart).1 = .ok r ∧
        r.problem.isSome = true := by
  have hfull : (loadAddress 0 "mem://a" .autodetect fullLoader emptyStart).1.toOption.isNone =
      true := by
    decide +kernel
  refine ⟨by decide +kernel, by decide +kernel, ?_⟩
  rintro ⟨r, hr, -⟩
  rw [hr] at hfull
  cases hfull

end ItemCatalog.Population
