import ItemCatalog.Proofs.Population.BestEffort
import ItemCatalog.Proofs.Population.Callers
import ItemCatalog.Proofs.Population.PassContents

/-! # Repetition: a pass that is run again

A pass without callbacks reads its sources and makes something of its catalog (`State.worked`). Run
again at once, it reads the same and starts from what it left. Whether that matters is decided by
the initial load: it puts something in the place of what the catalog held, whatever that was, or
leaves the catalog (`loadStage_cases`). The additions come again in any case. With force they change
nothing the second time; without force, where they still stand from the first time, they conflict
with themselves and change nothing either (`addStage_again`).

* `pass_worked`: what a pass without callbacks gives and leaves;
* `worked_again`: the work of a pass on what it left;
* `Rested.pass`, `Rested.passes`: one pass more, and any number of them;
* `populateCatalog_again`: the whole pass, run twice. -/

namespace ItemCatalog.Population

open Step Catalog

/-! ### The work of a pass -/

namespace State

variable (s : State)

/-- What the initial load gives and makes of a catalog, if it is wanted. -/
def loadStage (needsInitial : Bool) (c : Catalog) : Except Fault Unit × Catalog :=
  if needsInitial then ((s.initialLoad c).1.map fun _ => (), (s.initialLoad c).2) else (.ok (), c)

/-- What the additions give and make of a catalog. -/
def addStage (c : Catalog) : Except Fault Unit × Catalog :=
  ((s.additionsLoad c).1.map fun _ => (), (s.additionsLoad c).2)

/-- What the stages after the reset give and make of a catalog. -/
def loaded (needsInitial : Bool) (c : Catalog) : Except Fault Unit × Catalog :=
  match s.loadStage needsInitial c with
  | (.ok _, c) => s.addStage c
  | (.error e, c) => (.error e, c)

/-- What the stages after the load mode give and make of a catalog. -/
def worked (needsInitial : Bool) (items : Option Catalog.Handover) (c : Catalog) :
    Except Fault Unit × Catalog :=
  match items with
  | none => s.loaded needsInitial c
  | some items =>
    match items.toExcept with
    | .ok items => s.loaded needsInitial (ofItems items)
    | .error e => (.error e, c)

/-- Whether the initial load puts something in the place of what a catalog held: it finds a text
that it may try as a structured text, or that is a legacy document. -/
def replaces (needsInitial : Bool) : Bool :=
  needsInitial &&
    match s.source, s.loaderOr with
    | .ok (some source), .ok l =>
      match s.read l source.uri with
      | .ok text => source.mode.allowsYaml || (legacy? source.uri source.mode text).isSome
      | .error _ => false
    | _, _ => false

/-- The items that are added without force. -/
def unforced : List Item :=
  if s.settings.disallowLocal || s.settings.force then []
  else
    match s.additions? with
    | some (.ok added) => added
    | _ => []

/-- What a pass ends with that is run again: the additions without force conflict with themselves,
unless the catalog is reset or replaced first. -/
def resultAgain (needsInitial : Bool) (items : Option Catalog.Handover) : Except Fault Unit :=
  if items.isSome || s.replaces needsInitial || s.unforced.isEmpty then .ok ()
  else .error (.conflict (s.unforced.map Item.id) [])

end State

/-- Which source is found does not depend on whether this is the first pass. -/
theorem resolve_result (settings : Settings) (config : Config) (around : Surroundings)
    (providers : List Provider) (first first' : Bool) :
    (Source.resolve settings config around providers first).result =
      (Source.resolve settings config around providers first').result := by
  unfold Source.resolve
  split_ifs <;> rfl

/-- Two states agree on what the sources of a pass give. -/
structure SameReading (s t : State) : Prop where
  source : t.source = s.source
  loaderOr : t.loaderOr = s.loaderOr
  around : t.around = s.around
  settings : t.settings = s.settings

namespace SameReading

variable {s t u : State}

theorem of_inputs (h : SameInputs s t) : SameReading s t :=
  ⟨h.source, h.loaderOr, h.around, h.settings⟩

theorem trans (h : SameReading s t) (h' : SameReading t u) : SameReading s u :=
  ⟨h'.source.trans h.source, h'.loaderOr.trans h.loaderOr, h'.around.trans h.around,
    h'.settings.trans h.settings⟩

theorem of_count (s : State) : SameReading s s.count :=
  ⟨resolve_result _ _ _ _ _ _, rfl, rfl, rfl⟩

variable (h : SameReading s t)
include h

theorem read (l : Resource.Loader) (uri : String) : t.read l uri = s.read l uri := by
  rw [State.read, State.read, h.around]

theorem reported (log : List Log.Record) : t.reported log = s.reported log := by
  rw [State.reported, State.reported, h.around]

theorem loadStage (needsInitial : Bool) (c : Catalog) :
    t.loadStage needsInitial c = s.loadStage needsInitial c := by
  simp only [State.loadStage, State.initialLoad, State.loadedFrom, State.loadedAt, h.source,
    h.loaderOr, h.reported, h.read, h.around]

theorem addStage (c : Catalog) : t.addStage c = s.addStage c := by
  simp only [State.addStage, State.additionsLoad, State.additionsUri?, State.addedFrom, h.loaderOr,
    h.settings, h.read, h.around]

theorem loaded (needsInitial : Bool) (c : Catalog) :
    t.loaded needsInitial c = s.loaded needsInitial c := by
  simp only [State.loaded, h.loadStage, h.addStage]

theorem worked (needsInitial : Bool) (items : Option Catalog.Handover) (c : Catalog) :
    t.worked needsInitial items c = s.worked needsInitial items c := by
  simp only [State.worked, h.loaded]

theorem replaces (needsInitial : Bool) : t.replaces needsInitial = s.replaces needsInitial := by
  simp only [State.replaces, h.source, h.loaderOr, h.read]

theorem unforced : t.unforced = s.unforced := by
  simp only [State.unforced, State.additions?, State.additionsUri?, h.loaderOr, h.settings, h.read,
    h.around]

theorem resultAgain (needsInitial : Bool) (items : Option Catalog.Handover) :
    t.resultAgain needsInitial items = s.resultAgain needsInitial items := by
  rw [State.resultAgain, State.resultAgain, h.replaces, h.unforced]

end SameReading

section Work

variable (inner : Inner) {s : State} {name : CatalogName}

theorem loadStage_comes (needsInitial : Bool) (name : CatalogName) (s : State) :
    Comes (if needsInitial then discard (populateInitial name) else pure ()) s
      (s.loadStage needsInitial (s.catalog name)).1
      (s.catalogs.set name (s.loadStage needsInitial (s.catalog name)).2) := by
  cases needsInitial with
  | true => exact discard_comes (populateInitial_comes name s)
  | false => exact Comes.pure_of () (set_catalog_self s name).symm

/-- Without callbacks, a pass ends with its additions. -/
theorem addStage_comes (name : CatalogName) (hcallbacks : s.callbacks = []) :
    Comes (do discard (populateAdditions name); tellAll inner) s (s.addStage (s.catalog name)).1
      (s.catalogs.set name (s.addStage (s.catalog name)).2) := by
  have hadditions := discard_comes (populateAdditions_comes name s)
  rw [State.addStage]
  cases hr : (s.additionsLoad (s.catalog name)).1 with
  | error e =>
    rw [hr] at hadditions
    exact hadditions.bind_error
  | ok added =>
    rw [hr] at hadditions
    refine hadditions.bind fun t hst hct => ?_
    have htell := tellAll_of_none inner (hst.callbacks.trans hcallbacks)
    exact ⟨by rw [htell]; rfl, by rw [htell]; exact SameInputs.refl t, by rw [htell]; exact hct⟩

theorem afterMode_none (name : CatalogName) (needsInitial : Bool) :
    afterMode inner name needsInitial none =
      (if needsInitial then discard (populateInitial name) else pure ()) >>= fun _ =>
        (do discard (populateAdditions name); tellAll inner) := by
  cases needsInitial
  · rfl
  · rfl

section Named

variable (hcallbacks : s.callbacks = []) (hname : name < s.catalogs.length)
include hcallbacks hname

theorem loaded_comes (needsInitial : Bool) : Comes (afterMode inner name needsInitial none) s
    (s.loaded needsInitial (s.catalog name)).1
    (s.catalogs.set name (s.loaded needsInitial (s.catalog name)).2) := by
  have hload := loadStage_comes needsInitial name s
  rw [afterMode_none, State.loaded]
  rcases hr : s.loadStage needsInitial (s.catalog name) with ⟨e | _, c⟩
  · rw [hr] at hload
    exact hload.bind_error
  · rw [hr] at hload
    refine hload.bind fun t hst hct => ?_
    have hadd := addStage_comes inner name (hst.callbacks.trans hcallbacks)
    rwa [(SameReading.of_inputs hst).addStage, catalog_set_self hname hct, hct, List.set_set]
      at hadd

/-- **The stages after the load mode** do their work on the catalog, and there is no callback to
tell. -/
theorem worked_comes (needsInitial : Bool) (items : Option Catalog.Handover) :
    Comes (afterMode inner name needsInitial items) s
      (s.worked needsInitial items (s.catalog name)).1
      (s.catalogs.set name (s.worked needsInitial items (s.catalog name)).2) := by
  cases items with
  | none => exact loaded_comes inner hcallbacks hname needsInitial
  | some l =>
    have hreset := resetTo_comes name l s
    rw [afterMode_some, State.worked]
    cases hl : l.toExcept with
    | error e =>
      rw [hl] at hreset
      exact hreset.bind_error
    | ok items =>
      rw [hl] at hreset
      refine hreset.bind fun t hst hct => ?_
      have hnamet : name < t.catalogs.length := by rwa [hct, List.length_set]
      have hrest := loaded_comes inner (hst.callbacks.trans hcallbacks) hnamet needsInitial
      rwa [(SameReading.of_inputs hst).loaded, catalog_set_self hname hct, hct,
        List.set_set] at hrest

end Named

/-! ### One pass -/

/-- The state in which a pass starts its work: it has a catalog, and the load mode is applied. -/
def State.started (s : State) : State :=
  { (target s).2.modeSettled with settings := (target s).2.modeSettings }

theorem started_inputs (s : State) : s.started.catalogs = s.targetCatalogs ∧
    s.started.callbacks = s.callbacks ∧ s.started.context = (target s).2.context :=
  ⟨(target_comes s).catalogs_eq, (target_comes s).inputs.callbacks, rfl⟩

theorem stages_started {m : Option Settings} (hmode : (target s).2.loadMode = .ok m)
    (needsInitial : Bool) (items : Option Catalog.Handover) :
    stages inner s.targetName needsInitial items (target s).2 =
      afterMode inner s.targetName needsInitial items s.started := by
  rw [stages_eq, bind_run, applyLoadMode_run, hmode]
  rfl

/-- A pass that ends well could apply its load mode. -/
theorem loadMode_of_pass {needsInitial : Bool} {items : Option Catalog.Handover}
    (h : (populateCatalog inner needsInitial items s).1 = .ok name) :
    ∃ m, (target s).2.loadMode = .ok m := by
  rw [pass_run, stages_eq, bind_run, applyLoadMode_run] at h
  cases hmode : (target s).2.loadMode with
  | ok m => exact ⟨m, rfl⟩
  | error e =>
    rw [hmode] at h
    cases h

/-- **A pass without callbacks,** if its load mode can be applied, does its work on its catalog, and
what it reads stays as it was. -/
theorem pass_worked (hcallbacks : s.callbacks = [])
    (hslot : ∀ n, s.context.slot = some n → n < s.catalogs.length) (needsInitial : Bool)
    (items : Option Catalog.Handover) {m : Option Settings}
    (hmode : (target s).2.loadMode = .ok m) :
    (populateCatalog inner needsInitial items s).1 =
        (s.started.worked needsInitial items (s.started.catalog s.targetName)).1.map
          (fun _ => s.targetName) ∧
      (populateCatalog inner needsInitial items s).2.catalogs = s.started.catalogs.set s.targetName
        (s.started.worked needsInitial items (s.started.catalog s.targetName)).2 ∧
      SameReading s.started (populateCatalog inner needsInitial items s).2 := by
  obtain ⟨hcatalogs, hstarted, -⟩ := started_inputs s
  have hname : s.targetName < s.started.catalogs.length := hcatalogs ▸ targetName_lt hslot
  have hwork := worked_comes inner (hstarted.trans hcallbacks) hname needsInitial items
  rw [pass_run, stages_started inner hmode]
  refine ⟨by rw [hwork.result_eq], hwork.catalogs_eq, ?_⟩
  exact (SameReading.of_inputs hwork.inputs).trans (SameReading.of_count _)

/-! ### What a pass leaves -/

/-- A state that a pass without callbacks leaves: its catalog is installed, no one else is about to
install one, and the load mode was read. -/
structure Settled (name : CatalogName) (t : State) : Prop where
  slot : t.context.slot = some name
  rival : t.context.rival = none
  callbacks : t.callbacks = []
  modeRead : t.modeRead.isSet = true

theorem settled_serves : Serves (Settled name) where
  say _ _ ht := ⟨ht.slot, ht.rival, ht.callbacks, ht.modeRead⟩
  ask _ ht := ⟨ht.slot, ht.rival, ht.callbacks, ht.modeRead⟩
  loader _ ht := ⟨ht.slot, ht.rival, ht.callbacks, ht.modeRead⟩
  fetch _ _ ht := ⟨ht.slot, ht.rival, ht.callbacks, ht.modeRead⟩
  setCatalog _ _ ht := ⟨ht.slot, ht.rival, ht.callbacks, ht.modeRead⟩

theorem afterMode_settled (needsInitial : Bool) (items : Option Catalog.Handover) :
    Keeps (Settled name) (afterMode inner name needsInitial items) :=
  afterMode_keeps (fun l _ => resetTo_keeps settled_serves name l)
    (fun _ => populateInitial_keeps settled_serves name)
    (populateAdditions_keeps settled_serves name) fun t ht => by
      rw [tellAll_of_none inner ht.callbacks]
      exact ht

/-- The load mode is read, now or before. -/
theorem modeSettled_isSet (s : State) : s.modeSettled.modeRead.isSet = true := by
  show (LoadMode.apply s.modeRead s.context.config s.settings).2.isSet = true
  unfold LoadMode.apply OneShotFlag.compareAndSet
  cases h : s.modeRead.isSet with
  | false => rfl
  | true => exact h

theorem target_installs (hrival : s.context.rival = none) :
    (target s).2.context.slot = some s.targetName ∧ (target s).2.context.rival = none := by
  have hlook := afterLook_of_no_rival hrival
  cases hslot : s.context.slot with
  | none =>
    obtain ⟨hname, hstate⟩ := target_of_none s hslot
    obtain ⟨hplaced, hafter, -, -⟩ := replaced_place hrival
    rw [hname, hstate, hlook]
    refine ⟨hplaced.trans ?_, hafter⟩
    rw [hslot]
    rfl
  | some n =>
    obtain ⟨hname, hstate⟩ := target_of_some s hslot
    rw [hname, hstate, hlook]
    split_ifs
    · exact ⟨hslot, hrival⟩
    · exact ⟨hslot, hrival⟩

theorem started_settled (hcallbacks : s.callbacks = []) (hrival : s.context.rival = none) :
    Settled s.targetName s.started := by
  obtain ⟨-, hstarted, hcontext⟩ := started_inputs s
  obtain ⟨hslot, hafter⟩ := target_installs hrival
  exact ⟨hcontext ▸ hslot, hcontext ▸ hafter, hstarted.trans hcallbacks,
    modeSettled_isSet (target s).2⟩

theorem pass_settled (hcallbacks : s.callbacks = []) (hrival : s.context.rival = none)
    (needsInitial : Bool) (items : Option Catalog.Handover) {m : Option Settings}
    (hmode : (target s).2.loadMode = .ok m) :
    Settled s.targetName (populateCatalog inner needsInitial items s).2 := by
  have hleft := afterMode_settled inner needsInitial items s.started
    (started_settled hcallbacks hrival)
  rw [pass_run, stages_started inner hmode]
  exact ⟨hleft.slot, hleft.rival, hleft.callbacks, hleft.modeRead⟩

/-- **From a settled state,** a pass starts its work on the installed catalog as it is, with what
was read before. -/
theorem Settled.starts {t : State} (ht : Settled name t) :
    t.targetName = name ∧ (target t).2.loadMode = .ok none ∧ SameReading t t.started ∧
      t.started.catalogs = t.catalogs := by
  have hinputs := (target_comes t).inputs
  obtain ⟨hname, hstate⟩ := target_of_some t ht.slot
  have hread : (target t).2.modeRead = t.modeRead := by
    rw [hstate, afterLook_of_no_rival ht.rival]
    split_ifs <;> rfl
  have hmode : (target t).2.loadMode = .ok none := by
    rw [loadMode_eq, hread, if_pos ht.modeRead]
  have hsettings : (target t).2.modeSettings = (target t).2.settings := by
    rw [State.modeSettings, hmode]
    rfl
  have hstarted : t.started =
      { (target t).2.modeSettled with settings := (target t).2.settings } := by
    rw [State.started, hsettings]
  refine ⟨hname, hmode, ?_, ?_⟩
  · rw [hstarted]
    exact ⟨hinputs.source, hinputs.loaderOr, hinputs.around, hinputs.settings⟩
  · rw [(started_inputs t).1, State.targetCatalogs, ht.slot]
    rfl

end Work

/-! ### The work done again -/

section Again

variable {s : State} {c c' : Catalog} {needsInitial : Bool}

/-- What a load leaves does not depend on what the catalog held, or is what the catalog held. -/
theorem afterLoad_cases (uri : String) (mode : PopulateMode) (text : String) :
    ((mode.allowsYaml || (legacy? uri mode text).isSome) = true ∧
      ∃ c₁, ∀ c, afterLoad uri mode c text = c₁) ∨
    ((mode.allowsYaml || (legacy? uri mode text).isSome) = false ∧
      ∀ c, afterLoad uri mode c text = c) := by
  cases hs : structured? uri mode text with
  | some items =>
    have hy := readItems?_allowsYaml text ((structured?_eq_some_iff text).mp hs).1
    refine Or.inl ⟨by rw [hy, Bool.true_or], ⟨items, none⟩, fun c => ?_⟩
    rw [afterLoad, hs]
  | none =>
    cases hl : legacy? uri mode text with
    | some d =>
      refine Or.inl ⟨Bool.or_true _, ofDocument d, fun c => ?_⟩
      rw [afterLoad, hs, hl]
    | none =>
      cases hy : mode.allowsYaml with
      | true =>
        refine Or.inl ⟨rfl, ⟨newItems [] ((readItems? uri mode text).getD []), none⟩, fun c => ?_⟩
        rw [afterLoad, hs, hl, remains, if_pos hy]
      | false =>
        refine Or.inr ⟨rfl, fun c => ?_⟩
        rw [afterLoad, hs, hl, remains, hy]
        rfl

/-- What the load of an address makes of a catalog. -/
theorem loadedAt_catalog (s : State) (uri : String) (mode : PopulateMode) (l : Resource.Loader)
    (c : Catalog) : (s.loadedAt uri mode l c).2 =
      match s.read l uri with
      | .ok text => afterLoad uri mode c text
      | .error _ => c := by
  unfold State.loadedAt
  cases s.read l uri with
  | error e =>
    obtain ⟨log, hload⟩ := loadInitial_of_failed_fetch c uri mode e s.around.wording
    rw [hload]
  | ok text =>
    obtain ⟨r, log, hload, -, -⟩ := loadInitial_of_text c uri mode text s.around.wording
    rw [hload]

/-- The load of a source fails whatever a catalog held, or ends well whatever it held. -/
theorem loadedFrom_cases (s : State) (source : Source) :
    (∃ e, ∀ c, (s.loadedFrom source c).1 = .error e) ∨
    ∃ r l, s.loaderOr = .ok l ∧ ∀ c, s.loadedFrom source c =
      (.ok r, match s.read l source.uri with
        | .ok text => afterLoad source.uri source.mode c text
        | .error _ => c) := by
  unfold State.loadedFrom
  cases s.reported (sourceNotes source) with
  | error e => exact Or.inl ⟨e, fun c => rfl⟩
  | ok _ =>
    cases s.loaderOr with
    | error e => exact Or.inl ⟨e, fun c => rfl⟩
    | ok l =>
      have hsame : ∀ c, (s.loadedAt source.uri source.mode l c).1 =
          (s.loadedAt source.uri source.mode l .empty).1 := fun c => by
        rw [loadedAt_result, loadedAt_result, loadInitial_congr c .empty]
      cases hresult : (s.loadedAt source.uri source.mode l .empty).1 with
      | error e => exact Or.inl ⟨e, fun c => (hsame c).trans hresult⟩
      | ok r =>
        exact Or.inr ⟨r, l, rfl, fun c =>
          Prod.ext ((hsame c).trans hresult) (loadedAt_catalog s _ _ l c)⟩

/-- **The initial load** fails whatever a catalog held, or it puts something in the place of that,
or it leaves every catalog. -/
theorem loadStage_cases (s : State) (needsInitial : Bool) :
    (∃ e, ∀ c, (s.loadStage needsInitial c).1 = .error e) ∨
    (s.replaces needsInitial = true ∧ ∃ c₁, ∀ c, s.loadStage needsInitial c = (.ok (), c₁)) ∨
    (s.replaces needsInitial = false ∧ ∀ c, s.loadStage needsInitial c = (.ok (), c)) := by
  unfold State.replaces State.loadStage State.initialLoad
  cases needsInitial with
  | false => exact Or.inr (Or.inr ⟨rfl, fun c => rfl⟩)
  | true =>
    simp only [if_true, Bool.true_and]
    rcases s.source with e | _ | source
    · exact Or.inl ⟨e, fun c => rfl⟩
    · exact Or.inr (Or.inr ⟨rfl, fun c => rfl⟩)
    · rcases loadedFrom_cases s source with ⟨e, hfails⟩ | ⟨r, l, hl, hload⟩
      · exact Or.inl ⟨e, fun c => by simp only [hfails]; rfl⟩
      · refine Or.inr ?_
        simp only [hload, hl]
        cases s.read l source.uri with
        | error e => exact Or.inr ⟨rfl, fun c => rfl⟩
        | ok text =>
          rcases afterLoad_cases source.uri source.mode text with ⟨hrep, c₁, hc₁⟩ | ⟨hrep, hc⟩
          · exact Or.inl ⟨hrep, c₁, fun c => congrArg (Prod.mk _) (hc₁ c)⟩
          · exact Or.inr ⟨hrep, fun c => congrArg (Prod.mk _) (hc c)⟩

/-- The items of a batch that was added without force conflict with themselves. -/
theorem addBatch_again {A added : List Item} (h : c.addBatch A false = (.ok added, c')) :
    c'.addBatch A false =
      (if A = [] then .ok [] else .error (.conflict (A.map Item.id) []), c') := by
  rw [addBatch_unforced] at h
  obtain ⟨hresult, rfl⟩ := Prod.mk.inj h
  have hclash : clashing c.ids A = [] := by
    by_contra hne
    rw [if_neg hne] at hresult
    cases hresult
  have hnew : newItems c.ids A = A := (clashing_eq_nil_iff c.ids A).mp hclash
  rw [hnew, addBatch_unforced]
  have htaken : ∀ i ∈ A, i.id ∈ ids { c with items := c.items ++ A } := fun i hi =>
    List.mem_map_of_mem (List.mem_append_right c.items hi)
  obtain ⟨hnone, hall⟩ := sift_of_taken htaken
  rw [hnone, hall, List.append_nil]

theorem addStage_of_disallowed (hlocal : s.settings.disallowLocal = true) (c : Catalog) :
    s.addStage c = (.ok (), c) := by
  rw [State.addStage, State.additionsLoad]
  cases s.additionsUri? with
  | none => rfl
  | some uri => simp only [if_pos hlocal]; rfl

/-- **The additions again,** after they were made: with force they change nothing, without force
they conflict with themselves. -/
theorem addStage_again (h : s.addStage c = (.ok (), c')) :
    s.addStage c' = (if s.unforced = [] then .ok ()
      else .error (.conflict (s.unforced.map Item.id) []), c') := by
  cases hlocal : s.settings.disallowLocal with
  | true =>
    rw [addStage_of_disallowed hlocal, State.unforced, hlocal]
    rfl
  | false =>
    rw [State.addStage] at h ⊢
    rw [State.unforced, hlocal]
    cases hadditions : s.additions? with
    | none =>
      rw [additionsLoad_of_none hadditions]
      cases s.settings.force <;> rfl
    | some added =>
      cases added with
      | error e =>
        rw [additionsLoad_of_error hlocal hadditions] at h
        cases h
      | ok A =>
        rw [additionsLoad_of_ok hlocal hadditions] at h ⊢
        cases hforce : s.settings.force with
        | true =>
          rw [hforce, addBatch_forced] at h
          obtain ⟨-, rfl⟩ := Prod.mk.inj h
          rw [addBatch_forced, putAll_putAll_self]
          rfl
        | false =>
          rw [hforce] at h
          obtain ⟨hresult, hleft⟩ := Prod.mk.inj h
          obtain ⟨added, hadded⟩ : ∃ added, (c.addBatch A false).1 = .ok added := by
            cases hr : (c.addBatch A false).1 with
            | error e => rw [hr] at hresult; cases hresult
            | ok added => exact ⟨added, rfl⟩
          rw [addBatch_again (Prod.ext hadded hleft)]
          by_cases hA : A = []
          · simp [hA, Except.map]
          · simp [hA, Except.map]

/-- **The work of a pass again,** after it was done, changes nothing. -/
theorem worked_again {items : Option Catalog.Handover}
    (h : s.worked needsInitial items c = (.ok (), c')) :
    s.worked needsInitial items c' = (s.resultAgain needsInitial items, c') := by
  cases items with
  | some l =>
    rw [State.worked] at h ⊢
    cases hl : l.toExcept with
    | error e =>
      rw [hl] at h
      cases h
    | ok items =>
      rw [hl] at h
      exact h
  | none =>
    rw [State.worked, State.loaded] at h ⊢
    rw [State.resultAgain]
    rcases loadStage_cases s needsInitial with ⟨e, hload⟩ | ⟨hrep, c₁, hload⟩ | ⟨hrep, hload⟩
    · rw [← Prod.eta (s.loadStage needsInitial c), hload] at h
      cases h
    · rw [hload] at h ⊢
      rw [hrep]
      exact h
    · rw [hload] at h ⊢
      rw [hrep]
      simpa using addStage_again h

end Again

/-! ### Passes that are run again -/

section Passes

variable (inner : Inner) {s t : State} {name : CatalogName} {needsInitial : Bool}
  {items : Option Catalog.Handover}

/-- A state in which the work of a pass was done on the installed catalog, which it would not change
again. -/
structure Rested (name : CatalogName) (needsInitial : Bool) (items : Option Catalog.Handover)
    (t : State) : Prop extends Settled name t where
  there : name < t.catalogs.length
  worked : t.worked needsInitial items (t.catalog name) =
    (t.resultAgain needsInitial items, t.catalog name)

/-- A pass that ends well leaves a state in which its work is done. -/
theorem pass_rested (hslot : ∀ n, s.context.slot = some n → n < s.catalogs.length)
    (hrival : s.context.rival = none) (hcallbacks : s.callbacks = [])
    (hfirst : (populateCatalog inner needsInitial items s).1 = .ok name) :
    Rested name needsInitial items (populateCatalog inner needsInitial items s).2 := by
  obtain ⟨m, hmode⟩ := loadMode_of_pass inner hfirst
  have hsettled := pass_settled inner hcallbacks hrival needsInitial items hmode
  obtain ⟨hresult, hleft, hsame⟩ :=
    pass_worked inner hcallbacks hslot needsInitial items hmode
  have hlt : s.targetName < s.started.catalogs.length :=
    (started_inputs s).1 ▸ targetName_lt hslot
  rw [hfirst] at hresult
  generalize populateCatalog inner needsInitial items s = p at *
  rcases hwork : s.started.worked needsInitial items (s.started.catalog s.targetName)
    with ⟨e | _, c⟩
  · rw [hwork] at hresult
    cases hresult
  · rw [hwork] at hresult hleft
    obtain rfl : name = s.targetName := Except.ok.inj hresult
    refine ⟨hsettled, by rwa [hleft, List.length_set], ?_⟩
    rw [catalog_set_self hlt hleft]
    rw [← hsame.worked] at hwork
    exact worked_again hwork

/-- **One pass more** changes nothing of the catalog. -/
theorem Rested.pass (ht : Rested name needsInitial items t) :
    (populateCatalog inner needsInitial items t).1 =
        (t.resultAgain needsInitial items).map (fun _ => name) ∧
      (populateCatalog inner needsInitial items t).2.catalog name = t.catalog name ∧
      (populateCatalog inner needsInitial items t).2.resultAgain needsInitial items =
        t.resultAgain needsInitial items ∧
      Rested name needsInitial items (populateCatalog inner needsInitial items t).2 := by
  obtain ⟨hname, hmode, hstart, hcatalogs⟩ := ht.starts
  have hsettled := pass_settled inner ht.callbacks ht.rival needsInitial items hmode
  have hslot : ∀ n, t.context.slot = some n → n < t.catalogs.length := fun n hn =>
    Option.some.inj (ht.slot.symm.trans hn) ▸ ht.there
  obtain ⟨hresult, hleft, hsame⟩ :=
    pass_worked inner ht.callbacks hslot needsInitial items hmode
  have hcatalog : t.started.catalog name = t.catalog name := by
    rw [State.catalog, State.catalog, hcatalogs]
  rw [hname] at hsettled
  rw [hname, hcatalog, hstart.worked, ht.worked, hcatalogs] at hleft
  rw [hname, hcatalog, hstart.worked, ht.worked] at hresult
  have hread := hstart.trans hsame
  have hkept := catalog_set_self ht.there hleft
  refine ⟨hresult, hkept, hread.resultAgain needsInitial items, hsettled, ?_, ?_⟩
  · rw [hleft, List.length_set]
    exact ht.there
  · rw [hkept, hread.worked, hread.resultAgain, ht.worked]

/-- **Any number of passes more,** by induction on it, change nothing of the catalog, and all end
alike. -/
theorem Rested.passes (ht : Rested name needsInitial items t) (n : Nat) :
    Rested name needsInitial items
        ((fun u => (populateCatalog inner needsInitial items u).2)^[n] t) ∧
      ((fun u => (populateCatalog inner needsInitial items u).2)^[n] t).catalog name =
        t.catalog name ∧
      ((fun u => (populateCatalog inner needsInitial items u).2)^[n] t).resultAgain needsInitial
        items = t.resultAgain needsInitial items := by
  induction n generalizing t with
  | zero => exact ⟨ht, rfl, rfl⟩
  | succ n ih =>
    obtain ⟨-, hkept, hresult, hrested⟩ := ht.pass inner
    obtain ⟨hlast, hlastKept, hlastResult⟩ := ih hrested
    rw [Function.iterate_succ_apply]
    exact ⟨hlast, hlastKept.trans hkept, hlastResult.trans hresult⟩

/-- **A pass that ended well, run again** at once with the same arguments, leaves its catalog
installed and as it was, and ends well unless it makes additions without force to a catalog that is
neither reset nor replaced first: then it reports a conflict of every item that it adds. -/
theorem populateCatalog_again (needsInitial : Bool) (items : Option Catalog.Handover)
    (hslot : ∀ n, s.context.slot = some n → n < s.catalogs.length)
    (hrival : s.context.rival = none) (hcallbacks : s.callbacks = [])
    (hfirst : (nested (fun inner => populateCatalog inner needsInitial items) s).1 = .ok name) :
    let first := (nested (fun inner => populateCatalog inner needsInitial items) s).2
    let second := nested (fun inner => populateCatalog inner needsInitial items) first
    first.context.slot = some name ∧ second.2.context.slot = some name ∧
      second.2.catalog name = first.catalog name ∧
      second.1 =
        if items.isSome || first.replaces needsInitial || first.unforced.isEmpty then .ok name
        else .error (.conflict (first.unforced.map Item.id) []) := by
  intro first second
  have hrested : Rested name needsInitial items first :=
    pass_rested (passes (totalWeight s.callbacks)) hslot hrival hcallbacks hfirst
  obtain ⟨hresult, hkept, -, hagain⟩ := hrested.pass (passes (totalWeight first.callbacks))
  refine ⟨hrested.slot, hagain.slot, hkept, ?_⟩
  rw [show second.1 = _ from hresult, State.resultAgain]
  split_ifs <;> rfl

end Passes

/-- A state with additions, and with an initial catalog if there is an address for it. -/
def addingState (initial : Option String) : State where
  settings := { initialUri := initial, additionsUri := some "mem://more" }
  loader := some
    { timeout := .null
      handlers := [("mem", fun uri =>
        if uri = "mem://initial" then .ok "catalog: \x7bitems: [\x7bid: a\x7d]\x7d"
        else .ok "catalog: \x7bitems: [\x7bid: b\x7d]\x7d")] }

/-- A pass without a reset. -/
def addingPass : Step CatalogName :=
  nested fun inner => populateCatalog inner true none

/-- The state that a first pass leaves. -/
def addedState (initial : Option String) : State :=
  (addingPass (addingState initial)).2

theorem populateCatalog_again_with_additions :
    ((addingPass (addedState (some "mem://initial"))).1 = .ok 0 ∧
      (addingPass (addedState (some "mem://initial"))).2.catalog 0 =
        (addedState (some "mem://initial")).catalog 0) ∧
    ((addingPass (addedState none)).1 = .error (.conflict ["b:0.0.0-SNAPSHOT"] []) ∧
      (addingPass (addedState none)).2.catalog 0 = (addedState none).catalog 0) := by
  have hagain : ∀ initial, (addingPass (addingState initial)).1.toOption = some 0 →
      (addingPass (addedState initial)).2.catalog 0 = (addedState initial).catalog 0 ∧
      (addingPass (addedState initial)).1 =
        if (none : Option (List Item)).isSome || (addedState initial).replaces true ||
          (addedState initial).unforced.isEmpty then .ok 0
        else .error (.conflict ((addedState initial).unforced.map Item.id) []) := fun initial h =>
    (populateCatalog_again (s := addingState initial) true none
      (by intro n hn; cases hn) rfl rfl (eq_ok_of_toOption h)).2.2
  obtain ⟨hkept, hresult⟩ := hagain (some "mem://initial") (by decide +kernel)
  obtain ⟨hkept', hresult'⟩ := hagain none (by decide +kernel)
  have hreplaces : (addedState (some "mem://initial")).replaces true = true := by decide +kernel
  have hbare : (addedState none).replaces true = false := by decide +kernel
  have hids : (addedState none).unforced.map Item.id = ["b:0.0.0-SNAPSHOT"] := by decide +kernel
  have hadded : (addedState none).unforced.isEmpty = false := by decide +kernel
  rw [hreplaces] at hresult
  rw [hbare, hadded, hids] at hresult'
  exact ⟨⟨hresult, hkept⟩, hresult', hkept'⟩

/-- A pass that ended well can end with a fault when it is run again. -/
theorem pass_again_conflicts :
    (addingPass (addingState none)).1.toOption = some 0 ∧
      (addingPass (addedState none)).1.toOption = none := by
  decide +kernel

end ItemCatalog.Population
