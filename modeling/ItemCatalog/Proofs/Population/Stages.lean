import ItemCatalog.Population.Pass
import ItemCatalog.Proofs.Population.Step
import Mathlib.Tactic.SplitIfs

/-! # Stages: what each stage of a pass comes to

Stages read the settings, the configuration, the surroundings, the providers and the loader of a
state, and change one catalog. `State.initialLoad` and `State.additionsLoad` say what the initial
load and the additions give and make of a catalog, as functions of what they read; `SameInputs` says
that two states agree on what stages read. Each stage comes to what its function says and leaves the
inputs of the next one as they were. -/

namespace ItemCatalog.Population

open Step Catalog

/-! ### What stages read -/

namespace State

variable (s : State)

/-- The loader, or the one that the configuration gives. -/
def loaderOr : Except Fault Resource.Loader :=
  match s.loader with
  | some l => .ok l
  | none => Resource.Loader.ofConfig s.context.config

/-- The source of the initial catalog. -/
def source : Except Fault (Option Source) :=
  (Source.resolve s.settings s.context.config s.around s.providers (!s.runs.hasRun)).result

/-- What is found at an address. -/
def read (l : Resource.Loader) (uri : String) : Except Fault String :=
  (l.fetch s.around uri).result

/-- What the load of an address gives and makes of a catalog. -/
def loadedAt (uri : String) (mode : PopulateMode) (l : Resource.Loader) (c : Catalog) :
    Except Fault LoadResult × Catalog :=
  let (r, c, log) := loadInitial c uri mode (s.read l uri) s.around.wording
  ((s.reported log).bind fun _ => r, c)

/-- What the load of a source gives and makes of a catalog. -/
def loadedFrom (source : Source) (c : Catalog) : Except Fault LoadResult × Catalog :=
  match (s.reported (sourceNotes source)).bind fun _ => s.loaderOr with
  | .error e => (.error e, c)
  | .ok l => s.loadedAt source.uri source.mode l c

/-- What the initial load gives and makes of a catalog. -/
def initialLoad (c : Catalog) : Except Fault (Option LoadResult) × Catalog :=
  match s.source with
  | .error e => (.error e, c)
  | .ok none => (.ok none, c)
  | .ok (some source) => ((s.loadedFrom source c).1.map some, (s.loadedFrom source c).2)

/-- The address of the additions, if there are any. -/
def additionsUri? : Option String :=
  s.settings.additionsUri.filter fun uri => !Text.allBlank uri

/-- What the additions of an address give and make of a catalog. -/
def addedFrom (uri : String) (c : Catalog) : Except Fault (List Item) × Catalog :=
  match s.loaderOr.bind fun l => s.read l uri with
  | .error e => (.error e, c)
  | .ok text => c.addItems text s.settings.force (some uri) s.around.wording

/-- What the additions give and make of a catalog. -/
def additionsLoad (c : Catalog) : Except Fault (Option (List Item)) × Catalog :=
  match s.additionsUri? with
  | none => (.ok none, c)
  | some uri =>
    if s.settings.disallowLocal then (.ok none, c)
    else ((s.addedFrom uri c).1.map some, (s.addedFrom uri c).2)

/-- The name of the catalog that a pass populates. -/
def targetName : CatalogName :=
  s.context.slot.getD s.catalogs.length

/-- The catalogs that a pass starts with: one more if none is installed. -/
def targetCatalogs : List Catalog :=
  if s.context.slot.isSome then s.catalogs else s.catalogs ++ [.empty]

end State

/-- Two states agree on what stages read. -/
structure SameInputs (s t : State) : Prop where
  config : t.context.config = s.context.config
  around : t.around = s.around
  settings : t.settings = s.settings
  providers : t.providers = s.providers
  callbacks : t.callbacks = s.callbacks
  runs : t.runs = s.runs
  loaderOr : t.loaderOr = s.loaderOr

namespace SameInputs

variable {s t u : State}

theorem refl (s : State) : SameInputs s s := ⟨rfl, rfl, rfl, rfl, rfl, rfl, rfl⟩

theorem trans (h : SameInputs s t) (h' : SameInputs t u) : SameInputs s u :=
  ⟨h'.config.trans h.config, h'.around.trans h.around, h'.settings.trans h.settings,
    h'.providers.trans h.providers, h'.callbacks.trans h.callbacks, h'.runs.trans h.runs,
    h'.loaderOr.trans h.loaderOr⟩

theorem read (h : SameInputs s t) (l : Resource.Loader) (uri : String) :
    t.read l uri = s.read l uri := by
  rw [State.read, State.read, h.around]

theorem source (h : SameInputs s t) : t.source = s.source := by
  rw [State.source, State.source, h.settings, h.config, h.around, h.providers, h.runs]

theorem console (h : SameInputs s t) : t.around.console = s.around.console :=
  congrArg Surroundings.console h.around

theorem reported (h : SameInputs s t) (log : List Log.Record) :
    t.reported log = s.reported log := by
  rw [State.reported, State.reported, h.around]

theorem loadedAt (h : SameInputs s t) (uri : String) (mode : PopulateMode) (l : Resource.Loader)
    (c : Catalog) : t.loadedAt uri mode l c = s.loadedAt uri mode l c := by
  simp only [State.loadedAt, h.read, h.reported, h.around]

theorem loadedFrom (h : SameInputs s t) (source : Source) (c : Catalog) :
    t.loadedFrom source c = s.loadedFrom source c := by
  simp only [State.loadedFrom, h.reported, h.loadedAt, h.loaderOr]

theorem initialLoad (h : SameInputs s t) (c : Catalog) : t.initialLoad c = s.initialLoad c := by
  simp only [State.initialLoad, h.source, h.loadedFrom]

theorem addedFrom (h : SameInputs s t) (uri : String) (c : Catalog) :
    t.addedFrom uri c = s.addedFrom uri c := by
  simp only [State.addedFrom, h.read, h.settings, h.loaderOr, h.around]

theorem additionsLoad (h : SameInputs s t) (c : Catalog) :
    t.additionsLoad c = s.additionsLoad c := by
  simp only [State.additionsLoad, State.additionsUri?, h.addedFrom, h.settings]

theorem of_say (s : State) (log : List Log.Record) : SameInputs s (s.say log) :=
  ⟨rfl, rfl, rfl, rfl, rfl, rfl, rfl⟩

theorem of_make (s : State) (c : Catalog) : SameInputs s (s.make c).2 :=
  ⟨rfl, rfl, rfl, rfl, rfl, rfl, rfl⟩

theorem of_setCatalog (s : State) (name : CatalogName) (c : Catalog) :
    SameInputs s (s.setCatalog name c) := ⟨rfl, rfl, rfl, rfl, rfl, rfl, rfl⟩

end SameInputs

/-- What a step comes to if it leaves the inputs of stages as they were: its result, and the
catalogs afterwards. -/
structure Comes {α : Type} (p : Step α) (s : State) (result : Except Fault α)
    (catalogs : List Catalog) : Prop where
  result_eq : (p s).1 = result
  inputs : SameInputs s (p s).2
  catalogs_eq : (p s).2.catalogs = catalogs

namespace Comes

variable {α β : Type} {p : Step α} {f : α → Step β} {s : State} {cs cs' : List Catalog}

theorem pure (a : α) (s : State) : Comes (pure a) s (.ok a) s.catalogs :=
  ⟨rfl, SameInputs.refl s, rfl⟩

theorem pure_of (a : α) (h : s.catalogs = cs) : Comes (Pure.pure a) s (.ok a) cs :=
  h ▸ pure a s

theorem ofExcept (r : Except Fault α) (s : State) : Comes (ofExcept r) s r s.catalogs :=
  ⟨by rw [ofExcept_run], by rw [ofExcept_run]; exact SameInputs.refl s, by rw [ofExcept_run]⟩

theorem report (log : List Log.Record) (s : State) :
    Comes (report log) s (s.reported log) s.catalogs :=
  ⟨rfl, SameInputs.of_say s _, rfl⟩

theorem bind {a : α} {r : Except Fault β} (hp : Comes p s (.ok a) cs)
    (hf : ∀ t, SameInputs s t → t.catalogs = cs → Comes (f a) t r cs') :
    Comes (p >>= f) s r cs' := by
  obtain ⟨h1, h2, h3⟩ := hf (p s).2 hp.inputs hp.catalogs_eq
  have hrun : (p >>= f) s = f a (p s).2 := bind_of_ok hp.result_eq
  exact ⟨by rw [hrun, h1], by rw [hrun]; exact hp.inputs.trans h2, by rw [hrun, h3]⟩

/-- A run goes on from where its first part ends. -/
theorem bind_run {a : α} (hp : Comes p s (.ok a) cs) (f : α → Step β) :
    ∃ t, (p >>= f) s = f a t ∧ SameInputs s t ∧ t.catalogs = cs :=
  ⟨(p s).2, bind_of_ok hp.result_eq, hp.inputs, hp.catalogs_eq⟩

theorem bind_error {e : Fault} (hp : Comes p s (.error e) cs) :
    Comes (p >>= f) s (.error e) cs := by
  have hrun : (p >>= f) s = (.error e, (p s).2) := bind_of_error hp.result_eq
  exact ⟨by rw [hrun], by rw [hrun]; exact hp.inputs, by rw [hrun, hp.catalogs_eq]⟩

/-- A sequence whose first part may fail comes to what its second part comes to, if it gets
there. -/
theorem bind_map {r : Except Fault α} {r' : Except Fault β} (hp : Comes p s r cs)
    (hf : ∀ a, r = .ok a → ∀ t, SameInputs s t → t.catalogs = cs → Comes (f a) t r' cs) :
    Comes (p >>= f) s (r.bind fun _ => r') cs := by
  cases r with
  | error e => exact hp.bind_error
  | ok a => exact hp.bind fun t hst hcs => hf a rfl t hst hcs

/-- Inputs that are read need no step of their own. -/
theorem get_bind {f : State → Step β} {r : Except Fault β} (hf : Comes (f s) s r cs) :
    Comes (get >>= f) s r cs :=
  ⟨hf.result_eq, hf.inputs, hf.catalogs_eq⟩

theorem modify_bind {g : State → State} {f : PUnit → Step β} {r : Except Fault β}
    (hg : SameInputs s (g s)) (hf : Comes (f ⟨⟩) (g s) r cs) :
    Comes (modify g >>= f) s r cs :=
  ⟨hf.result_eq, hg.trans hf.inputs, hf.catalogs_eq⟩

theorem say_bind {log : List Log.Record} {f : Unit → Step β} {r : Except Fault β}
    (hf : Comes (f ()) (s.say log) r cs) : Comes (Step.say log >>= f) s r cs :=
  modify_bind (SameInputs.of_say s log) hf

/-- Something that may be said before going on. -/
theorem say_if {b : Prop} [Decidable b] {log : List Log.Record} {f : Unit → Step β}
    {r : Except Fault β}
    (hf : ∀ t, SameInputs s t → t.catalogs = s.catalogs → Comes (f ()) t r cs) :
    Comes (if b then Step.say log >>= f else f ()) s r cs := by
  split_ifs
  · exact say_bind (hf _ (SameInputs.of_say s log) rfl)
  · exact hf s (SameInputs.refl s) rfl

theorem hasRun_bind {f : Bool → Step β} {r : Except Fault β}
    (hf : Comes (f s.runs.hasRun) s r cs) : Comes (hasRun >>= f) s r cs :=
  ⟨hf.result_eq, hf.inputs, hf.catalogs_eq⟩

end Comes

/-! ### Reading -/

theorem resolveSource_comes (s : State) : Comes resolveSource s s.source s.catalogs := by
  refine Comes.get_bind (Comes.modify_bind ⟨rfl, rfl, rfl, rfl, rfl, rfl, rfl⟩ (Comes.say_bind ?_))
  exact Comes.ofExcept _ _

theorem getLoader_comes (s : State) : Comes getLoader s s.loaderOr s.catalogs := by
  refine Comes.get_bind ?_
  cases hl : s.loader with
  | some l =>
    have hor : s.loaderOr = .ok l := by rw [State.loaderOr, hl]
    rw [hor]
    exact Comes.pure l s
  | none =>
    have hor : s.loaderOr = Resource.Loader.ofConfig s.context.config := by
      rw [State.loaderOr, hl]
    rw [hor]
    cases hc : Resource.Loader.ofConfig s.context.config with
    | error e => exact (Comes.ofExcept _ s).bind_error
    | ok l =>
      refine (Comes.ofExcept (.ok l) s).bind fun t hst hcs => ?_
      have hsame : SameInputs t { t with loader := some l } := by
        refine ⟨rfl, rfl, rfl, rfl, rfl, rfl, ?_⟩
        rw [hst.loaderOr, hor, hc]
        rfl
      exact Comes.modify_bind hsame (Comes.pure_of l hcs)

theorem fetch_comes (l : Resource.Loader) (uri : String) (s : State) :
    Comes (fetch l uri) s (.ok (s.read l uri)) s.catalogs :=
  Comes.get_bind (Comes.modify_bind ⟨rfl, rfl, rfl, rfl, rfl, rfl, rfl⟩
    (Comes.say_bind (Comes.pure _ _)))

/-! ### The stages -/

theorem catalog_eq_of_catalogs {s t : State} (h : t.catalogs = s.catalogs) (name : CatalogName) :
    t.catalog name = s.catalog name := by
  rw [State.catalog, State.catalog, h]

theorem set_catalog_self (s : State) (name : CatalogName) :
    s.catalogs.set name (s.catalog name) = s.catalogs := by
  rw [State.catalog]
  cases h : s.catalogs[name]? with
  | none => exact List.set_eq_of_length_le (List.getElem?_eq_none_iff.mp h)
  | some c =>
    obtain ⟨hlt, rfl⟩ := List.getElem?_eq_some_iff.mp h
    exact List.set_getElem_self hlt

theorem loadAddress_comes (name : CatalogName) (uri : String) (mode : PopulateMode)
    (l : Resource.Loader) (s : State) :
    Comes (loadAddress name uri mode l) s (s.loadedAt uri mode l (s.catalog name)).1
      (s.catalogs.set name (s.loadedAt uri mode l (s.catalog name)).2) := by
  refine Comes.say_bind ((fetch_comes l uri _).bind fun t hst hcs => Comes.get_bind ?_)
  have hread : (s.say [Load.startNote uri]).read l uri = s.read l uri := rfl
  have hcs : t.catalogs = s.catalogs := hcs
  have haround : t.around = s.around := ((SameInputs.of_say s _).trans hst).around
  have hreported : ∀ c log, (t.setCatalog name c).reported log = s.reported log := fun c =>
    ((SameInputs.of_say s _).trans hst |>.trans (SameInputs.of_setCatalog t name c)).reported
  rw [catalog_eq_of_catalogs hcs, hread, haround, State.loadedAt, ← hcs]
  refine Comes.modify_bind (SameInputs.of_setCatalog t name _) ?_
  have hreport := Comes.report
    (loadInitial (s.catalog name) uri mode (s.read l uri) s.around.wording).2.2
    (t.setCatalog name (loadInitial (s.catalog name) uri mode (s.read l uri) s.around.wording).2.1)
  rw [hreported] at hreport
  exact hreport.bind_map fun _ _ u _ hcu => hcu ▸ Comes.ofExcept _ u

theorem loadSource_comes (name : CatalogName) (source : Source) (s : State) :
    Comes (loadSource name source) s (s.loadedFrom source (s.catalog name)).1
      (s.catalogs.set name (s.loadedFrom source (s.catalog name)).2) := by
  have hreport := Comes.report (sourceNotes source) s
  rw [State.loadedFrom]
  cases hr : s.reported (sourceNotes source) with
  | error e =>
    rw [hr] at hreport
    simp only [Except.bind]
    rw [set_catalog_self]
    exact hreport.bind_error
  | ok _ =>
    rw [hr] at hreport
    refine hreport.bind fun t hst hcs => ?_
    have hl := getLoader_comes t
    rw [hst.loaderOr, hcs] at hl
    simp only [Except.bind]
    cases hs : s.loaderOr with
    | error e =>
      rw [hs] at hl
      rw [set_catalog_self]
      exact hl.bind_error
    | ok l =>
      rw [hs] at hl
      refine hl.bind fun u htu hcu => ?_
      have hload := loadAddress_comes name source.uri source.mode l u
      rw [catalog_eq_of_catalogs hcu, (hst.trans htu).loadedAt, hcu] at hload
      exact hload

theorem populateInitial_comes (name : CatalogName) (s : State) :
    Comes (populateInitial name) s (s.initialLoad (s.catalog name)).1
      (s.catalogs.set name (s.initialLoad (s.catalog name)).2) := by
  have hsource := resolveSource_comes s
  rw [State.initialLoad]
  cases hs : s.source with
  | error e =>
    rw [hs] at hsource
    rw [set_catalog_self]
    exact hsource.bind_error
  | ok found =>
    rw [hs] at hsource
    refine hsource.bind fun t hst hcs => ?_
    cases found with
    | none =>
      rw [set_catalog_self, ← hcs]
      refine Comes.get_bind ?_
      by_cases hd : t.settings.disallowLocal = true
      · simp only [hd, Bool.not_true, Bool.false_eq_true, if_false]
        exact Comes.pure none t
      · simp only [hd, Bool.not_false, if_true]
        exact Comes.say_bind (Comes.pure none _)
    | some source =>
      have hload := loadSource_comes name source t
      rw [catalog_eq_of_catalogs hcs, hst.loadedFrom, hcs] at hload
      simp only
      cases hr : (s.loadedFrom source (s.catalog name)).1 with
      | error e =>
        rw [hr] at hload
        exact hload.bind_error
      | ok r =>
        rw [hr] at hload
        exact hload.bind fun u _ hcu => Comes.pure_of (some r) hcu

theorem addFrom_comes (name : CatalogName) (uri : String) (s : State) :
    Comes (addFrom name uri) s (s.addedFrom uri (s.catalog name)).1
      (s.catalogs.set name (s.addedFrom uri (s.catalog name)).2) := by
  refine Comes.get_bind (Comes.hasRun_bind (Comes.say_if fun t hst hcs => ?_))
  have hl := getLoader_comes t
  rw [hst.loaderOr] at hl
  rw [State.addedFrom]
  cases hs : s.loaderOr with
  | error e =>
    rw [hs] at hl
    simp only [Except.bind]
    rw [set_catalog_self, ← hcs]
    exact hl.bind_error
  | ok l =>
    rw [hs] at hl
    refine hl.bind fun u htu hcu => (fetch_comes l uri u).bind fun v huv hcv => ?_
    have hcv : v.catalogs = s.catalogs := hcv.trans (hcu.trans hcs)
    have hsv : SameInputs s v := hst.trans (htu.trans huv)
    rw [(hst.trans htu).read]
    simp only [Except.bind]
    cases hr : s.read l uri with
    | error e =>
      simp only
      rw [set_catalog_self, ← hcv]
      exact (Comes.ofExcept _ v).bind_error
    | ok text =>
      refine (Comes.ofExcept (.ok text) v).bind fun w hvw hcw => Comes.get_bind ?_
      have hcw : w.catalogs = s.catalogs := hcw.trans hcv
      rw [catalog_eq_of_catalogs hcw, (hsv.trans hvw).around, ← hcw]
      refine Comes.modify_bind (SameInputs.of_setCatalog w name _) ?_
      cases hadd : ((s.catalog name).addItems text s.settings.force (some uri)
          s.around.wording).1 with
      | error e => exact (Comes.ofExcept _ _).bind_error
      | ok items =>
        exact (Comes.ofExcept (.ok items) _).bind fun x _ hcx =>
          Comes.hasRun_bind (Comes.say_bind (Comes.pure_of items hcx))

theorem populateAdditions_comes (name : CatalogName) (s : State) :
    Comes (populateAdditions name) s (s.additionsLoad (s.catalog name)).1
      (s.catalogs.set name (s.additionsLoad (s.catalog name)).2) := by
  refine Comes.get_bind ?_
  rw [State.additionsLoad, State.additionsUri?]
  cases s.settings.additionsUri.filter fun uri => !Text.allBlank uri with
  | none =>
    rw [set_catalog_self]
    exact Comes.pure none s
  | some uri =>
    by_cases hd : s.settings.disallowLocal = true
    · simp only [hd, if_true]
      rw [set_catalog_self]
      exact Comes.say_if fun t hst hcs => Comes.pure_of none hcs
    · simp only [hd]
      have hadd := addFrom_comes name uri s
      cases hr : (s.addedFrom uri (s.catalog name)).1 with
      | error e =>
        rw [hr] at hadd
        exact hadd.bind_error
      | ok items =>
        rw [hr] at hadd
        exact hadd.bind fun t _ hct => Comes.pure_of (some items) hct

/-! ### What every console takes -/

theorem warning_isPlain {m : String} (h : '[' ∉ m.toList) :
    (Log.initialization.warning m).IsPlain :=
  ⟨m, h, Or.inl ⟨none, rfl⟩⟩

theorem alreadyNote_isPlain {m : String} (h : '[' ∉ m.toList) :
    ∀ r ∈ alreadyNote (some m), r.IsPlain := by
  rw [alreadyNote]
  split
  · exact nofun
  · exact List.forall_mem_singleton.mpr (warning_isPlain h)

theorem replacing_isPlain : ∀ r ∈ alreadyNote (some replacingMessage), r.IsPlain :=
  alreadyNote_isPlain (by decide +kernel)

theorem reverting_isPlain : ∀ r ∈ alreadyNote (some revertingMessage), r.IsPlain :=
  alreadyNote_isPlain (by decide +kernel)

/-! Some records are said without asking the console. It would take them. -/

section Outright

variable (console : Log.Console)

/-- The warning about a load mode is plain. -/
theorem takes_read (config : Config) (s : Settings) :
    console.Takes (LoadMode.read config s).2 := by
  unfold LoadMode.read
  split
  · exact List.forall_mem_nil _
  · cases LoadMode.coerce (config.get LoadMode.setting) with
    | error e => exact List.forall_mem_nil _
    | ok m =>
      have hplain : m.warning.IsPlain := by
        cases m <;> exact warning_isPlain (by decide +kernel)
      exact Log.Console.takes_plain (List.forall_mem_singleton.mpr hplain)

/-- So are the warnings about additions that are left out and about catalogs that are odd. -/
theorem takes_warnings : console.Takes [additionsNote, recreateNote, repopulateNote] := by
  refine Log.Console.takes_plain (List.forall_mem_cons.mpr ⟨?_, List.forall_mem_cons.mpr ⟨?_,
    List.forall_mem_singleton.mpr ?_⟩⟩) <;> exact warning_isPlain (by decide +kernel)

/-- The warning about a provider is recorded only if it was taken. -/
theorem takes_offered (providers : List Provider) :
    console.Takes (Source.offered console providers).log := by
  induction providers with
  | nil => exact List.forall_mem_nil _
  | cons p rest ih =>
    unfold Source.offered
    split
    · exact List.forall_mem_nil _
    · exact ih
    · split
      · exact List.forall_mem_nil _
      · split
        · exact List.forall_mem_nil _
        · exact List.forall_mem_cons.mpr ⟨‹_›, ih⟩

end Outright

/-- **A search** says only what its console takes. -/
theorem takes_resolve (s : Settings) (c : Config) (around : Surroundings)
    (providers : List Provider) (firstPass : Bool) :
    around.console.Takes (Source.resolve s c around providers firstPass).log := by
  unfold Source.resolve Source.found
  split
  · cases firstPass with
    | true => exact Log.Console.takes_details (List.forall_mem_singleton.mpr (by decide))
    | false => exact List.forall_mem_nil _
  · repeat' split
    all_goals first | exact List.forall_mem_nil _ | exact takes_offered _ _

/-! ### The start of a pass -/

theorem foldl_write_inputs (names : List (Option CatalogName)) (s : State) :
    SameInputs s (names.foldl State.write s) ∧
      (names.foldl State.write s).catalogs = s.catalogs := by
  induction names generalizing s with
  | nil => exact ⟨SameInputs.refl s, rfl⟩
  | cons name rest ih =>
    obtain ⟨hin, hcs⟩ := ih (s.write name)
    have hw : SameInputs s (s.write name) := ⟨rfl, rfl, rfl, rfl, rfl, rfl, rfl⟩
    exact ⟨hw.trans hin, hcs⟩

theorem afterLook_inputs (s : State) :
    SameInputs s s.afterLook ∧ s.afterLook.catalogs = s.catalogs := by
  unfold State.afterLook
  cases s.context.rival with
  | none => exact ⟨SameInputs.refl s, rfl⟩
  | some r => exact ⟨⟨rfl, rfl, rfl, rfl, rfl, rfl, rfl⟩, rfl⟩

theorem look_comes (s : State) : Comes look s (.ok s.context.slot) s.catalogs :=
  ⟨rfl, (afterLook_inputs s).1, (afterLook_inputs s).2⟩

/-- What the installation of a catalog gives: the one that was there before, if the console takes
the warning about it. -/
def State.previous (s : State) (message : Option String) : Except Fault (Option CatalogName) :=
  if s.context.slot.isSome then (s.reported (alreadyNote message)).map fun _ => s.context.slot
  else .ok s.context.slot

theorem previous_of_plain {message : Option String} (hplain : ∀ r ∈ alreadyNote message, r.IsPlain)
    (s : State) : s.previous message = .ok s.context.slot := by
  rw [State.previous, State.reported_of_takes (Log.Console.takes_plain hplain)]
  exact ite_self _

theorem installed_comes (new : CatalogName) (message : Option String) (preferNew : Bool)
    (s : State) : Comes (install new message preferNew) s (s.previous message) s.catalogs := by
  refine (look_comes s).bind fun t hst hcs => ?_
  obtain ⟨hin, hcat⟩ := foldl_write_inputs (installWrites s.context.slot new preferNew) t
  refine Comes.modify_bind hin ?_
  have hsu := hst.trans hin
  generalize (installWrites s.context.slot new preferNew).foldl State.write t = u at hcat hsu ⊢
  have hcu : u.catalogs = s.catalogs := hcat.trans hcs
  have hreport := Comes.report (alreadyNote message) u
  rw [hsu.reported, hcu] at hreport
  rw [State.previous]
  cases s.context.slot with
  | none => exact Comes.pure_of _ hcu
  | some previous =>
    have hrun : Comes (report (alreadyNote message) >>= fun _ => pure (some previous)) u
        ((s.reported (alreadyNote message)).bind fun _ => .ok (some previous)) s.catalogs :=
      hreport.bind_map fun _ _ v _ hcv => Comes.pure_of _ hcv
    cases hr : s.reported (alreadyNote message) with
    | error e =>
      rw [hr] at hrun
      exact hrun
    | ok _ =>
      rw [hr] at hrun
      exact hrun

/-- A message that every console takes stops no installation. -/
theorem install_comes (new : CatalogName) {message : Option String}
    (hplain : ∀ r ∈ alreadyNote message, r.IsPlain) (preferNew : Bool) (s : State) :
    Comes (install new message preferNew) s (.ok s.context.slot) s.catalogs :=
  previous_of_plain hplain s ▸ installed_comes new message preferNew s

theorem discard_comes {α : Type} {p : Step α} {s : State} {r : Except Fault α}
    {cs : List Catalog} (hp : Comes p s r cs) : Comes (discard p) s (r.map fun _ => ()) cs := by
  refine ⟨?_, ?_, ?_⟩
  · rw [discard_run, hp.result_eq]
  · rw [discard_run]
    exact hp.inputs
  · rw [discard_run, hp.catalogs_eq]

/-- The catalog to populate is the installed one, or a new one, which has the next name. -/
theorem target_comes (s : State) : Comes target s (.ok s.targetName) s.targetCatalogs := by
  refine (look_comes s).bind fun t hst hcs => ?_
  rw [State.targetName, State.targetCatalogs]
  cases s.context.slot with
  | none =>
    refine Comes.hasRun_bind (Comes.say_if fun u _ hcu => ?_)
    have hcu : u.catalogs = s.catalogs := hcu.trans hcs
    have hmake : Comes (make {}) u (.ok s.catalogs.length) (s.catalogs ++ [.empty]) :=
      ⟨by rw [make_run, hcu], SameInputs.of_make u .empty, by rw [← hcu]; rfl⟩
    refine hmake.bind fun v _ hcv => ?_
    refine (discard_comes (install_comes s.catalogs.length replacing_isPlain true v)).bind
      fun w _ hcw => ?_
    exact Comes.pure_of _ (hcw.trans hcv)
  | some name =>
    refine Comes.hasRun_bind (Comes.say_if fun u _ hcu => ?_)
    exact Comes.pure_of _ (hcu.trans hcs)

theorem resetTo_of_items (name : CatalogName) (items : List Item) (s : State) :
    Comes (resetTo name items) s (.ok ()) (s.catalogs.set name (ofItems items)) :=
  ⟨rfl, ⟨rfl, rfl, rfl, rfl, rfl, rfl, rfl⟩, rfl⟩

/-- Without all of its items, a reset changes nothing. -/
theorem resetTo_of_fault (name : CatalogName) {items : Handover} {e : Fault}
    (h : items.fault = some e) (s : State) : resetTo name items s = (.error e, s) := by
  obtain ⟨items, fault⟩ := items
  cases h
  rfl

theorem resetTo_comes (name : CatalogName) (items : Handover) (s : State) :
    Comes (resetTo name items) s (items.toExcept.map fun _ => ())
      (s.catalogs.set name ((items.toExcept.map ofItems).toOption.getD (s.catalog name))) := by
  obtain ⟨items, fault | e⟩ := items
  · exact resetTo_of_items name items s
  · refine ⟨?_, ?_, ?_⟩ <;> rw [resetTo_of_fault name rfl]
    · rfl
    · exact SameInputs.refl s
    · exact (set_catalog_self s name).symm

/-! ### The load mode -/

/-- What the load mode comes to: its fault, or the adjusted settings if there is one to apply. -/
def State.loadMode (s : State) : Except Fault (Option Settings) :=
  (LoadMode.apply s.modeRead s.context.config s.settings).1.1

/-- The state after the load mode was read. -/
def State.modeSettled (s : State) : State :=
  { s with modeRead := (LoadMode.apply s.modeRead s.context.config s.settings).2 }.say
    (LoadMode.apply s.modeRead s.context.config s.settings).1.2

/-- The settings after the load mode was applied. -/
def State.modeSettings (s : State) : Settings :=
  (s.loadMode.toOption.bind id).getD s.settings

/-- **The load mode applied:** it changes the settings, and nothing else that stages read. -/
theorem applyLoadMode_run (s : State) : applyLoadMode s =
    (s.loadMode.map fun _ => (), { s.modeSettled with settings := s.modeSettings }) := by
  simp only [applyLoadMode, bind_run, get_run, State.modeSettings, State.modeSettled,
    State.loadMode]
  obtain ⟨⟨r, log⟩, flag⟩ := LoadMode.apply s.modeRead s.context.config s.settings
  rcases r with e | _ | settings <;> rfl

theorem readMode_of_ne_null {c : Config} (h : c.get LoadMode.setting ≠ .null) (t : Settings) :
    LoadMode.read c t = match LoadMode.coerce (c.get LoadMode.setting) with
      | .error e => (.error e, [])
      | .ok m => (.ok (some (m.adjust t)), [m.warning]) := by
  unfold LoadMode.read
  split
  · next hv => exact absurd hv h
  · rfl

/-- The load mode is read only if it was not read before. -/
theorem loadMode_eq (s : State) : s.loadMode =
    if s.modeRead.isSet then .ok none else (LoadMode.read s.context.config s.settings).1 := by
  rw [State.loadMode, LoadMode.apply, OneShotFlag.compareAndSet]
  cases s.modeRead.isSet <;> rfl

/-- Without a load mode in the configuration, nothing is applied. -/
theorem loadMode_of_null {s : State} (hmode : s.context.config.get LoadMode.setting = .null) :
    s.loadMode = .ok none := by
  rw [loadMode_eq, LoadMode.read, hmode]
  split_ifs <;> rfl

/-- **What the load mode can come to:** nothing to apply, a fault, or the settings of a mode. -/
theorem loadMode_cases (s : State) : s.loadMode = .ok none ∨ (∃ e, s.loadMode = .error e) ∨
    ∃ m, LoadMode.coerce (s.context.config.get LoadMode.setting) = .ok m ∧
      s.loadMode = .ok (some (m.adjust s.settings)) := by
  by_cases hnull : s.context.config.get LoadMode.setting = .null
  · exact Or.inl (loadMode_of_null hnull)
  · rw [loadMode_eq, readMode_of_ne_null hnull]
    split_ifs
    · exact Or.inl rfl
    · cases LoadMode.coerce (s.context.config.get LoadMode.setting) with
      | error e => exact Or.inr (Or.inl ⟨e, rfl⟩)
      | ok m => exact Or.inr (Or.inr ⟨m, rfl, rfl⟩)

theorem applyLoadMode_comes {s : State}
    (hmode : s.context.config.get LoadMode.setting = .null) :
    Comes applyLoadMode s (.ok ()) s.catalogs := by
  have hnone := loadMode_of_null hmode
  have hsettings : s.modeSettings = s.settings := by
    rw [State.modeSettings, hnone]
    rfl
  refine ⟨?_, ?_, ?_⟩ <;> rw [applyLoadMode_run]
  · rw [hnone]
    rfl
  · exact ⟨rfl, rfl, hsettings, rfl, rfl, rfl, rfl⟩
  · rfl

end ItemCatalog.Population
