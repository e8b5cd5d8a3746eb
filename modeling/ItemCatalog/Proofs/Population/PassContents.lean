import ItemCatalog.Proofs.Population.BestEffort
import Mathlib.Data.List.Infix

/-! # Contents of a pass: what a pass leaves in its catalog

With an initial catalog that loads and callbacks that do not touch the catalog, a pass leaves the
items of the initial catalog, with the additions of the settings added or stored over them. What the
catalog held before, and what it was reset to, is gone.

* `ask_keeps`: callbacks that may ask for the catalog leave every catalog that there is as it was;
* `additionsLoad_of_none`, `additionsLoad_of_error`, `additionsLoad_unforced`,
  `additionsLoad_forced`: what the additions make of a catalog;
* `populateCatalog_contents`: the whole pass. -/

namespace ItemCatalog.Population

open Step Catalog

/-! ### Harmless callbacks -/

/-- Whether a callback, and what it registers, neither adds items nor runs passes. It may fail, ask
for the catalog, empty the slot and register others like it. -/
def Callback.isHarmless (c : Callback) : Bool :=
  c.avoids [.adds, .populates]

theorem harmless_closed : Closed fun c => c.isHarmless = true :=
  avoids_closed _

/-- Some catalogs are there as they were, and all callbacks are harmless. -/
structure Intact (base : List Catalog) (s : State) : Prop where
  catalogs : base <+: s.catalogs
  callbacks : ∀ c ∈ s.callbacks, c.isHarmless = true

theorem isPrefix_set {α : Type} {base l : List α} (h : base <+: l) {n : Nat}
    (hn : base.length ≤ n) (x : α) : base <+: l.set n x := by
  obtain ⟨rest, rfl⟩ := h
  rw [List.set_append_right _ _ hn]
  exact List.prefix_append base _

section Intact

variable {base : List Catalog} {inner : Inner}

theorem intact_installs : Installs (Intact base) where
  say _ hs := ⟨hs.catalogs, hs.callbacks⟩
  look {s} hs := by
    obtain ⟨hin, hcs⟩ := afterLook_inputs s
    exact ⟨hcs ▸ hs.catalogs, hin.callbacks ▸ hs.callbacks⟩
  write _ hs := ⟨hs.catalogs, hs.callbacks⟩
  make hs := ⟨hs.catalogs.trans (List.prefix_append _ _), hs.callbacks⟩
  count hs := ⟨hs.catalogs, hs.callbacks⟩

theorem intact_allows : Allows (fun c => c.isHarmless = true) (Intact base) where
  allowed hs := hs.callbacks
  callbacks hs hcs := ⟨hs.catalogs, hcs⟩
  call _ hs := ⟨hs.catalogs, hs.callbacks⟩

/-- A stage that changes a later catalog only. -/
theorem intact_of_comes {α : Type} {p : Step α} {s : State} {r : Except Fault α}
    {name : CatalogName} {c : Catalog} (hname : base.length ≤ name)
    (hp : Comes p s r (s.catalogs.set name c)) (hs : Intact base s) : Intact base (p s).2 := by
  refine ⟨?_, hp.inputs.callbacks ▸ hs.callbacks⟩
  rw [hp.catalogs_eq]
  exact isPrefix_set hs.catalogs hname c

theorem harmless_tell_keeps (hask : Keeps (Intact base) inner.ask) :
    Keeps (Intact base) (tellAll inner) :=
  tellAll_keeps harmless_closed intact_allows fun place c hc =>
    act_keeps harmless_closed intact_allows (fun _ h => by cases h)
      (fun _ _ => hask) (fun _ _ _ hs => intact_installs.write none hs)
      (fun _ _ h => by cases h) place hc

theorem harmless_stages_keep (hask : Keeps (Intact base) inner.ask) {name : CatalogName}
    (hname : base.length ≤ name) : Keeps (Intact base) (stages inner name true none) := by
  refine stages_keeps (fun s hs => ?_) (afterMode_keeps (fun _ h => by cases h)
    (fun _ s hs => intact_of_comes hname (populateInitial_comes name s) hs)
    (fun s hs => intact_of_comes hname (populateAdditions_comes name s) hs)
    (harmless_tell_keeps hask))
  rw [applyLoadMode_run]
  exact ⟨hs.catalogs, hs.callbacks⟩

/-- **Asking for the catalog**, at any depth, leaves the catalogs that there are as they were: if a
pass is run for it, it populates a new one. -/
theorem ask_keeps (depth : Nat) : Keeps (Intact base) (passes depth).ask := by
  induction depth with
  | zero => exact Keeps.throw tooDeep
  | succ depth ih =>
    exact getCatalog_keeps intact_installs.places (bestEffort_keeps intact_installs.places
      fun s hs => harmless_stages_keep ih hs.catalogs.length_le)

end Intact

/-! ### The initial catalog and the additions -/

/-- The items of the initial catalog, if it can be read and loads. -/
def State.initialItems? (s : State) : Option (List Item) :=
  match s.source, s.loaderOr with
  | .ok (some source), .ok l =>
    (s.read l source.uri).toOption.bind fun text => loaded? source.uri source.mode text
  | _, _ => none

theorem SameInputs.initialItems? {s t : State} (h : SameInputs s t) :
    t.initialItems? = s.initialItems? := by
  rw [State.initialItems?, State.initialItems?, h.source, h.loaderOr]
  simp only [h.read]

/-- The items of the additions, or why they cannot be read; nothing if there are no additions. -/
def State.additions? (s : State) : Option (Except Fault (List Item)) :=
  s.additionsUri?.map fun uri =>
    (s.loaderOr.bind fun l => s.read l uri).bind fun text =>
      Document.structuredItems text (some uri) s.around.wording

/-- The fault of the console, if it does not take what is said about the source of the initial
catalog. -/
def State.sourceRefusal? (s : State) : Option Fault :=
  match s.source with
  | .ok (some source) => (s.around.console.take (sourceNotes source)).2
  | _ => none

theorem SameInputs.sourceRefusal? {s t : State} (h : SameInputs s t) :
    t.sourceRefusal? = s.sourceRefusal? := by
  rw [State.sourceRefusal?, State.sourceRefusal?, h.source, h.around]

theorem initialLoad_of_items {s : State} {L : List Item} (h : s.initialItems? = some L)
    (hnotes : s.sourceRefusal? = none) (c : Catalog) :
    (∃ r, (s.initialLoad c).1 = .ok r) ∧ (s.initialLoad c).2.items = L ∧
      (L.map Item.id).Nodup := by
  rw [State.initialItems?] at h
  rw [State.sourceRefusal?] at hnotes
  rw [State.initialLoad]
  split at h
  · next source l hsource hl =>
    obtain ⟨text, htext, hloaded⟩ := Option.bind_eq_some_iff.mp h
    have hread : s.read l source.uri = .ok text := by
      cases hr : s.read l source.uri <;> rw [hr] at htext <;> cases htext
      rfl
    obtain ⟨⟨r, hr, hsucceeded⟩, hitems, hnd⟩ :=
      loadInitial_of_loaded (w := s.around.wording) c hloaded
    rw [hsource] at hnotes ⊢
    dsimp only at hnotes ⊢
    have htakes := Log.Console.take_snd_eq_none_iff.mp hnotes
    have hloads : (s.loadedFrom source c).1 = .ok r := by
      rw [loadSource_result_of_loader htakes hl, State.loadResult, hread,
        loadInitial_congr .empty c, hr]
      exact told_eq_ok_iff.mpr ⟨rfl, if_pos hsucceeded⟩
    have hleft : (s.loadedFrom source c).2 =
        (loadInitial c source.uri source.mode (.ok text) s.around.wording).2.1 := by
      rw [State.loadedFrom, State.reported_of_takes htakes, hl, ← hread]
      rfl
    rw [hloads, hleft]
    exact ⟨⟨some r, rfl⟩, hitems, hnd⟩
  · cases h

/-- If the console does not take what is said about the source, nothing is loaded. -/
theorem initialLoad_of_refusal {s : State} {f : Fault} (h : s.sourceRefusal? = some f)
    (c : Catalog) : s.initialLoad c = (.error f, c) := by
  rw [State.sourceRefusal?] at h
  split at h
  · next source hsource =>
    rw [State.initialLoad, hsource]
    dsimp only
    rw [State.loadedFrom, State.reported_eq_error_iff.mpr h]
    rfl
  · cases h

section Additions

variable {s : State} {c : Catalog} {L : List Item}

theorem additionsLoad_of_none (h : s.additions? = none) (c : Catalog) :
    s.additionsLoad c = (.ok none, c) := by
  rw [State.additions?, Option.map_eq_none_iff] at h
  rw [State.additionsLoad, h]

theorem additionsLoad_of_error (hlocal : s.settings.disallowLocal = false) {e : Fault}
    (h : s.additions? = some (.error e)) (c : Catalog) : s.additionsLoad c = (.error e, c) := by
  obtain ⟨uri, huri, htext⟩ := Option.map_eq_some_iff.mp h
  rw [State.additionsLoad, huri]
  simp only [hlocal, State.addedFrom]
  cases hread : s.loaderOr.bind fun l => s.read l uri with
  | error e' =>
    rw [hread] at htext
    cases htext
    rfl
  | ok text =>
    rw [hread, Except.bind] at htext
    simp [addItems, htext]
    rfl

theorem additionsLoad_of_ok (hlocal : s.settings.disallowLocal = false) {A : List Item}
    (h : s.additions? = some (.ok A)) (c : Catalog) : s.additionsLoad c =
      ((c.addBatch A s.settings.force).1.map some, (c.addBatch A s.settings.force).2) := by
  obtain ⟨uri, huri, htext⟩ := Option.map_eq_some_iff.mp h
  rw [State.additionsLoad, huri]
  simp only [hlocal, State.addedFrom]
  cases hread : s.loaderOr.bind fun l => s.read l uri with
  | error e' =>
    rw [hread] at htext
    cases htext
  | ok text =>
    rw [hread, Except.bind] at htext
    simp [addItems, htext]

end Additions

/-! ### The whole pass -/

theorem catalog_set_self {s t : State} {name : CatalogName} {c : Catalog}
    (hname : name < s.catalogs.length) (hcs : t.catalogs = s.catalogs.set name c) :
    t.catalog name = c := by
  rw [State.catalog, hcs, List.getElem?_set_self hname]
  rfl

theorem catalog_eq_of_extends {s t : State} {name : CatalogName} (h : s.catalogs <+: t.catalogs)
    (hname : name < s.catalogs.length) : t.catalog name = s.catalog name := by
  rw [State.catalog, State.catalog, List.prefix_iff_getElem?.mp h name hname,
    List.getElem?_eq_getElem hname]

section Run

variable (inner : Inner) {s : State} {name : CatalogName} {L : List Item}

/-- The initial load and the additions: what the catalog held before is gone. -/
theorem afterMode_run (hname : name < s.catalogs.length) (hload : s.initialItems? = some L)
    (hnotes : s.sourceRefusal? = none) :
    ∃ c t, c.items = L ∧ SameInputs s t ∧
      t.catalogs = s.catalogs.set name (s.additionsLoad c).2 ∧
      afterMode inner name true none s = match (s.additionsLoad c).1 with
        | .ok _ => tellAll inner t
        | .error e => (.error e, t) := by
  obtain ⟨⟨r, hr⟩, hitems, -⟩ := initialLoad_of_items hload hnotes (s.catalog name)
  have hinitial := discard_comes (populateInitial_comes name s)
  rw [hr] at hinitial
  obtain ⟨t, hrun, hst, hcs⟩ := hinitial.bind_run fun _ =>
    (do discard (populateAdditions name); tellAll inner)
  have hrun : afterMode inner name true none s =
      (do discard (populateAdditions name); tellAll inner) t := hrun
  have hc := catalog_set_self hname hcs
  have hadditions := discard_comes (populateAdditions_comes name t)
  rw [hc, hst.additionsLoad, hcs, List.set_set] at hadditions
  refine ⟨(s.initialLoad (s.catalog name)).2, (discard (populateAdditions name) t).2, hitems,
    hst.trans hadditions.inputs, hadditions.catalogs_eq, ?_⟩
  rw [hrun]
  cases ha : (s.additionsLoad (s.initialLoad (s.catalog name)).2).1 with
  | ok added =>
    rw [ha] at hadditions
    exact bind_of_ok hadditions.result_eq
  | error e =>
    rw [ha] at hadditions
    exact bind_of_error hadditions.result_eq

/-- What a reset makes of a catalog. -/
def resetBy (items : Option Handover) (c : Catalog) : Catalog :=
  items.elim c fun given => ofItems given.items

/-- **The stages up to the initial load:** the catalog is what it was reset to. -/
theorem stages_start {items : Option Handover} (hitems : items.bind Handover.fault = none)
    (hmode : s.context.config.get LoadMode.setting = .null) (name : CatalogName) :
    ∃ t, stages inner name true items s = afterMode inner name true none t ∧ SameInputs s t ∧
      t.catalogs = s.catalogs.set name (resetBy items (s.catalog name)) := by
  obtain ⟨t, hrun, hst, hcs⟩ := (applyLoadMode_comes hmode).bind_run fun _ =>
    afterMode inner name true items
  rw [stages_eq, hrun]
  cases items with
  | none => exact ⟨t, rfl, hst, by rw [hcs]; exact (set_catalog_self s name).symm⟩
  | some given =>
    obtain ⟨given, fault⟩ := given
    obtain rfl : fault = none := hitems
    obtain ⟨u, hreset, htu, hcu⟩ := (resetTo_of_items name given t).bind_run fun _ =>
      afterMode inner name true none
    exact ⟨u, hreset, hst.trans htu, hcs ▸ hcu⟩

/-- **The stages up to the callbacks:** what the catalog held and was reset to is gone. -/
theorem stages_run {items : Option Handover} (hitems : items.bind Handover.fault = none)
    (hname : name < s.catalogs.length)
    (hmode : s.context.config.get LoadMode.setting = .null) (hload : s.initialItems? = some L)
    (hnotes : s.sourceRefusal? = none) :
    ∃ c t, c.items = L ∧ SameInputs s t ∧
      t.catalogs = s.catalogs.set name (s.additionsLoad c).2 ∧
      stages inner name true items s = match (s.additionsLoad c).1 with
        | .ok _ => tellAll inner t
        | .error e => (.error e, t) := by
  obtain ⟨u, hstart, hsu, hcu⟩ := stages_start inner hitems hmode name
  have hnameu : name < u.catalogs.length := by rwa [hcu, List.length_set]
  obtain ⟨c, t, hc, hut, hct, hrun⟩ := afterMode_run inner hnameu
    (hsu.initialItems?.trans hload) (hsu.sourceRefusal?.trans hnotes)
  rw [hsu.additionsLoad, hcu, List.set_set] at hct
  rw [hsu.additionsLoad] at hrun
  exact ⟨c, t, hc, hsu.trans hut, hct, hstart.trans hrun⟩

/-- If the console does not take what is said about the source, the stages end there, and the
catalog is what it was reset to. -/
theorem stages_of_refusal {items : Option Handover} (hitems : items.bind Handover.fault = none)
    (hmode : s.context.config.get LoadMode.setting = .null) {f : Fault}
    (hnotes : s.sourceRefusal? = some f) (hname : name < s.catalogs.length) :
    (stages inner name true items s).1 = .error f ∧
      (stages inner name true items s).2.catalog name = resetBy items (s.catalog name) := by
  obtain ⟨u, hstart, hsu, hcu⟩ := stages_start inner hitems hmode name
  have hinitial := discard_comes (populateInitial_comes name u)
  rw [initialLoad_of_refusal (hsu.sourceRefusal?.trans hnotes), set_catalog_self] at hinitial
  have hrun : afterMode inner name true none u = (.error f, (discard (populateInitial name) u).2) :=
    bind_of_error hinitial.result_eq
  rw [hstart, hrun]
  exact ⟨rfl, catalog_set_self hname (hinitial.catalogs_eq.trans hcu)⟩

theorem targetName_lt (hslot : ∀ n, s.context.slot = some n → n < s.catalogs.length) :
    s.targetName < s.targetCatalogs.length := by
  rw [State.targetName, State.targetCatalogs]
  cases hs : s.context.slot with
  | none => simp
  | some n => exact hslot n hs

/-- The catalog that a pass starts with. -/
def State.targetCatalog (s : State) : Catalog :=
  (s.targetCatalogs[s.targetName]?).getD .empty

theorem target_catalog (s : State) : (target s).2.catalog s.targetName = s.targetCatalog := by
  rw [State.catalog, (target_comes s).catalogs_eq]
  rfl

/-- **A pass up to the callbacks, and what they make of it:** they leave the catalog. -/
theorem populateCatalog_run {items : Option Handover} (hitems : items.bind Handover.fault = none)
    (hslot : ∀ n, s.context.slot = some n → n < s.catalogs.length)
    (hmode : s.context.config.get LoadMode.setting = .null)
    (hcallbacks : ∀ c ∈ s.callbacks, c.isHarmless = true) (hload : s.initialItems? = some L)
    (hnotes : s.sourceRefusal? = none) (depth : Nat) :
    ∃ c t, c.items = L ∧ t.catalog s.targetName = (s.additionsLoad c).2 ∧
      t.callbacks = s.callbacks ∧
      (populateCatalog (passes depth) true items s).2.catalog s.targetName =
        (s.additionsLoad c).2 ∧
      (populateCatalog (passes depth) true items s).1 = match (s.additionsLoad c).1 with
        | .ok _ => (tellAll (passes depth) t).1.map fun _ => s.targetName
        | .error e => .error e := by
  have hsu := (target_comes s).inputs
  have hname : s.targetName < (target s).2.catalogs.length :=
    (target_comes s).catalogs_eq ▸ targetName_lt hslot
  obtain ⟨c, t, hc, hut, hct, hrun⟩ := stages_run (passes depth) hitems hname
    (hsu.config ▸ hmode) (hsu.initialItems?.trans hload) (hsu.sourceRefusal?.trans hnotes)
  rw [hsu.additionsLoad] at hct hrun
  have htc := catalog_set_self hname hct
  have hcallbacks_t : t.callbacks = s.callbacks := hut.callbacks.trans hsu.callbacks
  refine ⟨c, t, hc, htc, hcallbacks_t, ?_⟩
  rw [pass_run, hrun]
  cases (s.additionsLoad c).1 with
  | error e => exact ⟨htc, rfl⟩
  | ok added =>
    -- The catalogs that are there when the callbacks are told stay as they are.
    have hkeep := harmless_tell_keeps (ask_keeps depth) t
      ⟨List.prefix_refl t.catalogs, hcallbacks_t ▸ hcallbacks⟩
    have hlt : s.targetName < t.catalogs.length := by rwa [hct, List.length_set]
    exact ⟨(catalog_eq_of_extends hkeep.catalogs hlt).trans htc, rfl⟩

/-- If the console does not take what is said about the source, the pass ends there. -/
theorem populateCatalog_of_refusal {items : Option Handover}
    (hitems : items.bind Handover.fault = none)
    (hslot : ∀ n, s.context.slot = some n → n < s.catalogs.length)
    (hmode : s.context.config.get LoadMode.setting = .null) {f : Fault}
    (hnotes : s.sourceRefusal? = some f) :
    (populateCatalog inner true items s).1 = .error f ∧
      (populateCatalog inner true items s).2.catalog s.targetName =
        resetBy items s.targetCatalog := by
  have hsu := (target_comes s).inputs
  have hname : s.targetName < (target s).2.catalogs.length :=
    (target_comes s).catalogs_eq ▸ targetName_lt hslot
  obtain ⟨hresult, hleft⟩ := stages_of_refusal inner hitems (hsu.config ▸ hmode)
    (hsu.sourceRefusal?.trans hnotes) hname
  rw [target_catalog] at hleft
  rw [pass_run, hresult, ← hleft]
  exact ⟨rfl, rfl⟩

/-- A pass on a catalog of some items that ends as the callbacks end that are told about it. -/
def Told (s : State) (depth : Nat) (contents : List Item) (r : Except Fault CatalogName) : Prop :=
  ∃ t, (t.catalog s.targetName).items = contents ∧ t.callbacks = s.callbacks ∧
    r = (tellAll (passes depth) t).1.map fun _ => s.targetName

/-- **What a pass leaves in its catalog,** for every catalog before and every reset. If the console
does not take what is said about the source, the pass ends there, and the catalog is what it was
reset to. If it does: without additions, or if these cannot be read, it is the initial catalog.
Without force, the additions whose identity neither is in the initial catalog nor came earlier
follow it, and the pass ends with a conflict if others were left out, and else as the callbacks end
that are told about it. With force, identities that are there keep their places, new ones follow,
and all have their latest values. -/
theorem populateCatalog_contents {items : Option Handover}
    (hitems : items.bind Handover.fault = none)
    (hslot : ∀ n, s.context.slot = some n → n < s.catalogs.length)
    (hmode : s.context.config.get LoadMode.setting = .null)
    (hlocal : s.settings.disallowLocal = false)
    (hcallbacks : ∀ c ∈ s.callbacks, c.isHarmless = true) (hload : s.initialItems? = some L) :
    let run := nested (fun inner => populateCatalog inner true items) s
    let listed := (run.2.catalog s.targetName).items
    let depth := totalWeight s.callbacks
    (s.sourceRefusal? = none →
      (s.additions? = none → listed = L ∧ Told s depth L run.1) ∧
      (∀ e, s.additions? = some (.error e) → listed = L ∧ run.1 = .error e) ∧
      (∀ A, s.additions? = some (.ok A) → s.settings.force = false →
        listed = L ++ newItems (L.map Item.id) A ∧
        (newItems (L.map Item.id) A = A → Told s depth listed run.1) ∧
        (newItems (L.map Item.id) A ≠ A → run.1 = .error (.conflict
          ((clashing (L.map Item.id) A).map Item.id) (newItems (L.map Item.id) A)))) ∧
      (∀ A, s.additions? = some (.ok A) → s.settings.force = true →
        listed = L.map (latest A) ++ (newItems (L.map Item.id) A).map (latest A) ∧
        Told s depth listed run.1)) ∧
    ∀ f, s.sourceRefusal? = some f →
      listed = (resetBy items s.targetCatalog).items ∧ run.1 = .error f := by
  intro run listed depth
  refine ⟨fun hnotes => ?_, fun f hnotes => ?_⟩
  · obtain ⟨c, t, hc, htc, hcalls, hlisted, hresult⟩ :=
      populateCatalog_run hitems hslot hmode hcallbacks hload hnotes depth
    have hids : c.ids = L.map Item.id := by rw [ids, hc]
    have htold : ∀ {contents added}, s.additionsLoad c = (.ok added, contents) →
        listed = contents.items ∧ Told s depth contents.items run.1 := fun {contents added} h => by
      rw [h] at htc hlisted hresult
      exact ⟨congrArg Catalog.items hlisted, t, congrArg Catalog.items htc, hcalls, hresult⟩
    refine ⟨fun hnone => ?_, fun e herror => ?_, fun A hok hforce => ?_, fun A hok hforce => ?_⟩
    · exact hc ▸ htold (additionsLoad_of_none hnone c)
    · rw [additionsLoad_of_error hlocal herror] at hlisted hresult
      exact ⟨(congrArg Catalog.items hlisted).trans hc, hresult⟩
    · have hadd := additionsLoad_of_ok hlocal hok c
      rw [hforce, addBatch_unforced, hids, hc] at hadd
      by_cases hnew : newItems (L.map Item.id) A = A
      · rw [if_pos ((clashing_eq_nil_iff _ A).mpr hnew)] at hadd
        obtain ⟨hitems, hend⟩ := htold hadd
        exact ⟨hitems, fun _ => hitems ▸ hend, fun h => absurd hnew h⟩
      · rw [if_neg fun h => hnew ((clashing_eq_nil_iff _ A).mp h)] at hadd
        rw [hadd] at hlisted hresult
        exact ⟨congrArg Catalog.items hlisted, fun h => absurd h hnew, fun _ => hresult⟩
    · have hadd := additionsLoad_of_ok hlocal hok c
      rw [hforce, addBatch_forced, hc] at hadd
      obtain ⟨hitems, hend⟩ := htold hadd
      have hnd : (L.map Item.id).Nodup := (initialLoad_of_items hload hnotes c).2.2
      exact ⟨hitems.trans (putAll_eq hnd A), hitems ▸ hend⟩
  · obtain ⟨hresult, hleft⟩ := populateCatalog_of_refusal (passes depth) hitems hslot hmode hnotes
    exact ⟨congrArg Catalog.items hleft, hresult⟩

end Run

/-- A text for each of two addresses. -/
def twoTexts : Resource.Handler := fun uri =>
  if uri = "mem://initial" then .ok "catalog: \x7bitems: [\x7bid: a\x7d, \x7bid: b\x7d]\x7d"
  else .ok "catalog: \x7bitems: [\x7bid: b\x7d, \x7bid: c\x7d]\x7d"

/-- A state with an installed catalog, an initial catalog and additions. -/
def twoSources : State where
  catalogs := [ofItems [{ symbolicName := "old" }]]
  context := { slot := some 0 }
  settings := { initialUri := some "mem://initial", additionsUri := some "mem://more" }
  callbacks := [.asks 1, .clears 1]
  loader := some { timeout := .null, handlers := [("mem", twoTexts)] }

theorem populateCatalog_contents_two_sources : ∃ L A,
    L.map Item.id = ["a:0.0.0-SNAPSHOT", "b:0.0.0-SNAPSHOT"] ∧
    A.map Item.id = ["b:0.0.0-SNAPSHOT", "c:0.0.0-SNAPSHOT"] ∧
    ((nested (fun inner => populateCatalog inner true none) twoSources).2.catalog 0).items =
      L ++ newItems (L.map Item.id) A := by
  have hinitial : twoSources.initialItems?.map (fun L => L.map Item.id) =
      some ["a:0.0.0-SNAPSHOT", "b:0.0.0-SNAPSHOT"] := by decide +kernel
  have hadditions : (twoSources.additions?.bind Except.toOption).map (fun A => A.map Item.id) =
      some ["b:0.0.0-SNAPSHOT", "c:0.0.0-SNAPSHOT"] := by decide +kernel
  obtain ⟨L, hL, hLids⟩ := Option.map_eq_some_iff.mp hinitial
  obtain ⟨A, hA, hAids⟩ := Option.map_eq_some_iff.mp hadditions
  have hA : twoSources.additions? = some (.ok A) := by
    obtain ⟨r, hr, hA⟩ := Option.bind_eq_some_iff.mp hA
    cases r <;> cases hA
    exact hr
  have hitems : (none : Option Handover).bind Handover.fault = none := rfl
  obtain ⟨-, -, hunforced, -⟩ := (populateCatalog_contents (s := twoSources) hitems
    (fun n hn => by cases hn; decide) (by rfl) (by rfl) (by decide) hL).1 rfl
  exact ⟨L, A, hLids, hAids, (hunforced A hA rfl).1⟩

/-- A text for each of two addresses, without an identity in common. -/
def apartTexts : Resource.Handler := fun uri =>
  if uri = "mem://initial" then .ok "catalog: \x7bid: a\x7d" else .ok "catalog: \x7bid: b\x7d"

/-- A state with additions that are all new, and a callback that says itself that an item is there
already. -/
def conflictingCallback : State where
  settings := { initialUri := some "mem://initial", additionsUri := some "mem://more" }
  callbacks := [.fails (.conflict ["x"] [])]
  loader := some { timeout := .null, handlers := [("mem", apartTexts)] }

/-- The identities of the conflict that a run ends with. -/
def conflict? {α : Type} : Except Fault α → Option (List String)
  | .error (.conflict ids _) => some ids
  | _ => none

/-- The pass ends with the conflict of the callback, although none of the additions is left out. -/
theorem populateCatalog_of_conflicting_callback :
    conflict? (nested (fun inner => populateCatalog inner true none) conflictingCallback).1 =
      some ["x"] ∧
    ∃ L A, conflictingCallback.initialItems? = some L ∧
      conflictingCallback.additions? = some (.ok A) ∧ newItems (L.map Item.id) A = A := by
  have hinitial : conflictingCallback.initialItems?.map (fun L => L.map Item.id) =
      some ["a:0.0.0-SNAPSHOT"] := by decide +kernel
  have hadditions : (conflictingCallback.additions?.bind Except.toOption).map
      (fun A => A.map Item.id) = some ["b:0.0.0-SNAPSHOT"] := by decide +kernel
  obtain ⟨L, hL, hLids⟩ := Option.map_eq_some_iff.mp hinitial
  obtain ⟨A, hA, hAids⟩ := Option.map_eq_some_iff.mp hadditions
  refine ⟨by decide +kernel, L, A, hL, ?_, ?_⟩
  · obtain ⟨r, hr, hA⟩ := Option.bind_eq_some_iff.mp hA
    cases r <;> cases hA
    exact hr
  · refine (newItems_eq_self_iff _ _).mpr ⟨by rw [hAids]; decide, fun i hi => ?_⟩
    have hid := List.mem_map_of_mem (f := Item.id) hi
    rw [hAids, List.mem_singleton] at hid
    rw [hLids, hid]
    decide
end ItemCatalog.Population
