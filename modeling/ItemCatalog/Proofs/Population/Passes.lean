import ItemCatalog.Proofs.Population.Callbacks
import ItemCatalog.Proofs.Population.Records
import ItemCatalog.Proofs.Population.Stages

/-! # Passes: what a pass keeps

An invariant is kept by a pass if it is kept by each stage on the catalog of the pass, by the stages
that nested passes start, and by the bookkeeping around them: looks at the slot, writes to it, new
empty catalogs, what is said, and the count of passes. -/

namespace ItemCatalog.Population

open Step

/-- An invariant that the bookkeeping around the stages keeps, whatever is written to the slot. -/
structure Installs (I : State → Prop) : Prop where
  say : ∀ {s} log, I s → I (s.say log)
  look : ∀ {s}, I s → I s.afterLook
  write : ∀ {s} name, I s → I (s.write name)
  make : ∀ {s}, I s → I (s.make .empty).2
  count : ∀ {s}, I s → I s.count

/-- An invariant that the bookkeeping around the stages keeps, if a new catalog is installed where
it is made and no load mode is warned of. -/
structure Places (I : State → Prop) : Prop where
  say : ∀ {s} log, NoMode log → I s → I (s.say log)
  look : ∀ {s}, I s → I s.afterLook
  place : ∀ {s} message preferNew, NoMode (alreadyNote message) → I s →
    I (install s.catalogs.length message preferNew (s.make .empty).2).2
  count : ∀ {s}, I s → I s.count

/-- An invariant that the work of the stages keeps. -/
structure Serves (I : State → Prop) : Prop where
  say : ∀ {s} log, AllWork log → I s → I (s.say log)
  ask : ∀ {s} n, I s → I (s.ask n)
  loader : ∀ {s} l, I s → I { s with loader := some l }
  fetch : ∀ {s} fetched requests, I s →
    I { s with trace := { s.trace with fetched, requests } }
  setCatalog : ∀ {s} name c, I s → I (s.setCatalog name c)

/-- The passes that callbacks can start keep an invariant. -/
structure InnerKeeps (I : State → Prop) (inner : Inner) : Prop where
  populate : Keeps I inner.populate
  ask : Keeps I inner.ask

/-- The stages after the load mode. -/
def afterMode (inner : Inner) (name : CatalogName) (needsInitial : Bool)
    (items : Option Catalog.Handover) : Step Unit := do
  match items with
  | some items => resetTo name items
  | none => pure ()
  if needsInitial then discard (populateInitial name)
  discard (populateAdditions name)
  tellAll inner

theorem stages_eq (inner : Inner) (name : CatalogName) (needsInitial : Bool)
    (items : Option Catalog.Handover) : stages inner name needsInitial items =
      applyLoadMode >>= fun _ => afterMode inner name needsInitial items := rfl

theorem afterMode_some (inner : Inner) (name : CatalogName) (needsInitial : Bool)
    (items : Catalog.Handover) : afterMode inner name needsInitial (some items) =
      resetTo name items >>= fun _ => afterMode inner name needsInitial none := rfl

theorem nested_run {α : Type} (p : Inner → Step α) (s : State) :
    nested p s = p (passes (totalWeight s.callbacks)) s := rfl

theorem mem_installWrites {α : Type} {previous : Option α} {new : α} {preferNew : Bool}
    {name : Option α} (h : name ∈ installWrites previous new preferNew) :
    name = none ∨ name = some new := by
  cases previous <;> cases preferNew <;> simp_all [installWrites]

section Generic

variable {I : State → Prop} {inner : Inner}

theorem sayIf_keeps {log : List Log.Record} (hsay : Keeps I (say log)) {β : Type} {b : Prop}
    [Decidable b] {f : Unit → Step β} (hf : Keeps I (f ())) :
    Keeps I (if b then say log >>= f else f ()) :=
  Keeps.ite (hsay.bind fun _ => hf) hf

/-! ### Installing -/

/-- Installing a catalog empties the slot, or writes this catalog to it. -/
theorem install_keeps_of {message : Option String} (hsay : Keeps I (report (alreadyNote message)))
    (hlook : Keeps I look) {new : CatalogName}
    (hwrite : ∀ name, name = none ∨ name = some new → ∀ s, I s → I (s.write name))
    (preferNew : Bool) : Keeps I (install new message preferNew) := by
  refine hlook.bind fun previous => (Keeps.modify fun s hs => ?_).bind fun _ =>
    Keeps.ite (hsay.bind fun _ => Keeps.pure previous) (Keeps.pure previous)
  exact List.foldlRecOn _ State.write hs fun t ht name hname =>
    hwrite name (mem_installWrites hname) t ht

section Installs

variable (hI : Installs I)
include hI

theorem look_keeps : Keeps I look := fun _ hs => hI.look hs

theorem install_keeps (new : CatalogName) (message : Option String) (preferNew : Bool) :
    Keeps I (install new message preferNew) :=
  install_keeps_of (Keeps.report fun taken _ _ hs => hI.say taken hs) (look_keeps hI)
    (fun name _ _ hs => hI.write name hs) preferNew

theorem Installs.places : Places I where
  say log _ := hI.say log
  look := hI.look
  place message preferNew _ hs := install_keeps hI _ message preferNew _ (hI.make hs)
  count := hI.count

end Installs

/-- A new catalog has the next name. -/
theorem make_bind_keeps {β : Type} {f : CatalogName → Step β}
    (hf : ∀ s, I s → I (f s.catalogs.length (s.make .empty).2).2) : Keeps I (make {} >>= f) := hf

theorem target_keeps (hI : Places I) : Keeps I target := by
  have hsay : ∀ {log}, NoMode log → Keeps I (say log) := fun hlog =>
    Keeps.modify fun _ hs => hI.say _ hlog hs
  refine Keeps.bind (fun s hs => hI.look hs) fun slot => ?_
  cases slot with
  | none =>
    refine Keeps.get_bind fun s hs =>
      sayIf_keeps (hsay recreateNote_noMode) (make_bind_keeps fun t ht => ?_) s hs
    refine Keeps.after (p := discard (install t.catalogs.length _ true)) ?_ fun _ => Keeps.pure _
    rw [discard_run]
    exact hI.place _ true replacing_noMode ht
  | some name =>
    exact Keeps.get_bind fun s hs =>
      sayIf_keeps (hsay repopulateNote_noMode) (Keeps.pure name) s hs

/-! ### Stages -/

section Work

variable (hI : Serves I)
include hI

theorem saying_keeps {log : List Log.Record} (hlog : AllWork log) : Keeps I (say log) :=
  Keeps.modify fun _ hs => hI.say log hlog hs

theorem getLoader_keeps : Keeps I getLoader := by
  refine Keeps.get_bind fun s hs => ?_
  cases hl : s.loader with
  | some l => exact hs
  | none =>
    exact ((Keeps.ofExcept _).bind fun l =>
      (Keeps.modify fun _ ht => hI.loader l ht).bind fun _ => Keeps.pure l) s hs

theorem fetch_keeps (l : Resource.Loader) (uri : String) : Keeps I (fetch l uri) :=
  Keeps.get_bind fun s hs => ((Keeps.modify fun _ ht => hI.fetch _ _ ht).bind fun _ =>
    (saying_keeps hI (fetch_details _ _ _).work).bind fun _ => Keeps.pure _) s hs

theorem reporting_keeps {log : List Log.Record} (hlog : AllWork log) : Keeps I (report log) :=
  Keeps.report fun taken htaken _ hs => hI.say taken (hlog.of_prefix htaken) hs

theorem resetTo_keeps (name : CatalogName) (items : Catalog.Handover) :
    Keeps I (resetTo name items) :=
  (Keeps.ofExcept _).bind fun _ =>
    Keeps.modify fun _ hs => hI.say _ (.details _ _) (hI.setCatalog name _ hs)

theorem loadAddress_keeps (name : CatalogName) (uri : String) (mode : PopulateMode)
    (l : Resource.Loader) : Keeps I (loadAddress name uri mode l) := by
  refine (saying_keeps hI (.details _ _)).bind fun _ => (fetch_keeps hI l uri).bind
    fun content => Keeps.get_bind fun s hs => ?_
  exact ((Keeps.modify fun _ ht => hI.setCatalog name _ ht).bind fun _ =>
    (reporting_keeps hI (loadInitial_work _ _ _ _ _)).bind fun _ => Keeps.ofExcept _) s hs

theorem loadSource_keeps (name : CatalogName) (source : Source) :
    Keeps I (loadSource name source) :=
  (reporting_keeps hI (sourceNotes_work _)).bind fun _ => (getLoader_keeps hI).bind fun l =>
    loadAddress_keeps hI name source.uri source.mode l

/-- **The initial load** keeps what its work keeps. -/
theorem populateInitial_keeps (name : CatalogName) : Keeps I (populateInitial name) := by
  have hresolve : Keeps I resolveSource := Keeps.get_bind fun s hs =>
    ((Keeps.modify fun _ ht => hI.ask _ ht).bind fun _ =>
      (saying_keeps hI (resolve_work _ _ _ _ _)).bind fun _ => Keeps.ofExcept _) s hs
  refine hresolve.bind fun found => ?_
  cases found with
  | none =>
    refine Keeps.get_bind fun s hs => ?_
    exact Keeps.ite ((saying_keeps hI (.details _ _)).bind fun _ => Keeps.pure none)
      (Keeps.pure none) s hs
  | some source => exact (loadSource_keeps hI name source).bind fun r => Keeps.pure (some r)

theorem addFrom_keeps (name : CatalogName) (uri : String) : Keeps I (addFrom name uri) := by
  have hasRun_keeps : Keeps I hasRun := fun _ hs => hs
  refine Keeps.get_bind fun s hs => (hasRun_keeps.bind fun b => ?_ : Keeps I _) s hs
  refine sayIf_keeps (saying_keeps hI (.details _ _)) ?_
  refine (getLoader_keeps hI).bind fun l => (fetch_keeps hI l uri).bind fun content =>
    (Keeps.ofExcept _).bind fun text => Keeps.get_bind fun t ht => ?_
  exact ((Keeps.modify fun _ hu => hI.setCatalog name _ hu).bind fun _ =>
    (Keeps.ofExcept _).bind fun items => hasRun_keeps.bind fun b =>
      (saying_keeps hI (.details _ _)).bind fun _ => Keeps.pure items) t ht

/-- **The additions** keep what their work keeps. -/
theorem populateAdditions_keeps (name : CatalogName) : Keeps I (populateAdditions name) := by
  refine Keeps.get_bind fun s hs => ?_
  cases huri : s.additionsUri? with
  | none =>
    rw [State.additionsUri?] at huri
    simp only [huri]
    exact hs
  | some uri =>
    rw [State.additionsUri?] at huri
    simp only [huri]
    exact Keeps.ite (sayIf_keeps (saying_keeps hI (.single additionsNote_work)) (Keeps.pure none))
      ((addFrom_keeps hI name uri).bind fun items => Keeps.pure (some items)) s hs

theorem addToInstalled_keeps (hlook : Keeps I look) (item : Item) :
    Keeps I (addToInstalled item) := by
  refine hlook.bind fun slot => ?_
  cases slot with
  | none => exact Keeps.throw noCatalogFault
  | some name =>
    refine Keeps.get_bind fun s hs => ?_
    exact ((Keeps.modify fun _ ht => hI.setCatalog name _ ht).bind fun _ =>
      (Keeps.ofExcept _).discard) s hs

end Work

/-! ### Passes -/

/-- The stages keep what each of them keeps. -/
theorem afterMode_keeps {name : CatalogName} {needsInitial : Bool} {items : Option Catalog.Handover}
    (hreset : ∀ l, items = some l → Keeps I (resetTo name l))
    (hinitial : needsInitial = true → Keeps I (populateInitial name))
    (hadditions : Keeps I (populateAdditions name)) (htell : Keeps I (tellAll inner)) :
    Keeps I (afterMode inner name needsInitial items) := by
  have hrest : Keeps I (do discard (populateAdditions name); tellAll inner) :=
    (Keeps.discard hadditions).bind fun _ => htell
  have hload : Keeps I (afterMode inner name needsInitial none) := by
    cases needsInitial with
    | false => exact hrest
    | true => exact (Keeps.discard (hinitial rfl)).bind fun _ => hrest
  cases items with
  | none => exact hload
  | some l =>
    rw [afterMode_some]
    exact (hreset l rfl).bind fun _ => hload

/-- **The stages** keep what each of them keeps. -/
theorem stages_keeps {name : CatalogName} {needsInitial : Bool} {items : Option Catalog.Handover}
    (hmode : Keeps I applyLoadMode) (hafter : Keeps I (afterMode inner name needsInitial items)) :
    Keeps I (stages inner name needsInitial items) := by
  rw [stages_eq]
  exact hmode.bind fun _ => hafter

/-- The stages keep what the changes of the work, the load mode and the callbacks keep. -/
theorem stages_keep_of_tellAll (hserves : Serves I) (hmode : Keeps I applyLoadMode)
    (htell : Keeps I (tellAll inner)) (name : CatalogName) (needsInitial : Bool)
    (items : Option Catalog.Handover) : Keeps I (stages inner name needsInitial items) :=
  stages_keeps hmode (afterMode_keeps (fun l _ => resetTo_keeps hserves name l)
    (fun _ => populateInitial_keeps hserves name) (populateAdditions_keeps hserves name) htell)

section Served

variable {C : Callback → Prop} (hC : Closed C) (hallows : Allows C I) (hserves : Serves I)
  (hlook : Keeps I look) (hclear : ∀ n, C (.clears n) → ∀ s, I s → I (s.write none))
  (hin : InnerKeeps I inner)
include hC hallows hserves hlook hclear hin

/-- Callbacks keep what is kept by the passes that they start and by the writes and additions of
their class. -/
theorem served_tellAll_keeps : Keeps I (tellAll inner) :=
  tellAll_keeps hC hallows fun place _ hc =>
    act_keeps hC hallows (fun _ _ => hin.populate) (fun _ _ => hin.ask) hclear
      (fun item _ _ => addToInstalled_keeps hserves hlook item) place hc

/-- The stages keep what their work, the load mode and their callbacks keep. -/
theorem served_stages_keep (hmode : Keeps I applyLoadMode) (name : CatalogName)
    (needsInitial : Bool) (items : Option Catalog.Handover) :
    Keeps I (stages inner name needsInitial items) :=
  stages_keep_of_tellAll hserves hmode (served_tellAll_keeps hC hallows hserves hlook hclear hin)
    name needsInitial items

end Served

/-- **A pass** keeps what its stages keep. -/
theorem populateCatalog_keeps (hI : Places I) {needsInitial : Bool}
    {items : Option Catalog.Handover}
    (hstages : ∀ s, I s → Keeps I (stages inner s.targetName needsInitial items)) :
    Keeps I (populateCatalog inner needsInitial items) := by
  refine Keeps.counted (fun s hs => hI.count hs) fun s hs => ?_
  have htarget := target_comes s
  rw [bind_of_ok htarget.result_eq]
  exact ((hstages s hs).bind fun _ => Keeps.pure s.targetName) _ (target_keeps hI s hs)

/-- **A pass** is its stages on its catalog, and is counted. -/
theorem pass_run (inner : Inner) (needsInitial : Bool) (items : Option Catalog.Handover)
    (s : State) :
    populateCatalog inner needsInitial items s =
      ((stages inner s.targetName needsInitial items (target s).2).1.map fun _ => s.targetName,
        (stages inner s.targetName needsInitial items (target s).2).2.count) := by
  rw [populateCatalog, counted_run, bind_of_ok (target_comes s).result_eq, ← map_eq_pure_bind,
    map_run]

theorem bestEffort_keeps (hI : Places I)
    (hstages : ∀ s, I s → Keeps I (stages inner s.catalogs.length true none)) :
    Keeps I (bestEffort inner) := by
  have hlook : Keeps I look := fun s hs => hI.look hs
  refine hlook.bind fun slot => ?_
  cases slot with
  | some name => exact Keeps.pure _
  | none =>
    refine make_bind_keeps fun s hs =>
      Keeps.after (hI.place _ false reverting_noMode hs) fun previous => ?_
    have hcount : Keeps I (counted (stages inner s.catalogs.length true none)) :=
      Keeps.counted (fun t ht => hI.count ht) (hstages s hs)
    exact Keeps.ite (hcount.bind fun _ => hlook) hlook

theorem getCatalog_keeps (hI : Places I) (hbest : Keeps I (bestEffort inner)) :
    Keeps I (getCatalog inner) := by
  refine Keeps.bind (fun s hs => hI.look hs) fun slot => ?_
  cases slot with
  | some name => exact Keeps.pure _
  | none =>
    refine Keeps.get_bind fun s hs => ?_
    exact Keeps.ite hbest (Keeps.throw unavailable) s hs

/-- **Nested passes**, at any depth, keep the invariants of a family that their stages keep. -/
theorem passes_keep_all {ι : Type} {I : ι → State → Prop} (hI : ∀ i, Places (I i))
    (hstages : ∀ inner, (∀ i, InnerKeeps (I i) inner) →
      ∀ i name, Keeps (I i) (stages inner name true none))
    (depth : Nat) (i : ι) : InnerKeeps (I i) (passes depth) := by
  induction depth generalizing i with
  | zero => exact ⟨Keeps.throw tooDeep, Keeps.throw tooDeep⟩
  | succ depth ih =>
    exact ⟨Keeps.discard (populateCatalog_keeps (hI i) fun _ _ => hstages _ ih i _),
      getCatalog_keeps (hI i) (bestEffort_keeps (hI i) fun _ _ => hstages _ ih i _)⟩

theorem passes_keep (hI : Places I)
    (hstages : ∀ inner, InnerKeeps I inner → ∀ name, Keeps I (stages inner name true none))
    (depth : Nat) : InnerKeeps I (passes depth) :=
  passes_keep_all (fun _ : Unit => hI) (fun inner hin _ => hstages inner (hin ())) depth ()

end Generic

end ItemCatalog.Population
