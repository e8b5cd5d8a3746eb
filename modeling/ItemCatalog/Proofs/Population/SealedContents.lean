import ItemCatalog.Proofs.Population.Isolation

/-! # Contents of sealed sessions: what passes leave if nothing is read

With callbacks that add no items, a sealed pass leaves every catalog as it was, except for the one
that it resets; so do the passes that callbacks start, since they reset none. `Frozen` is what holds
between the stages, and it is kept by everything that follows the reset. -/

namespace ItemCatalog.Population

open Step Catalog

/-! ### What stays -/

/-- Whether a callback, and what it registers, adds no items. It may start passes. -/
def Callback.addsNothing (c : Callback) : Bool :=
  c.avoids [.adds]

theorem addsNothing_closed : Closed fun c => c.addsNothing = true :=
  avoids_closed _

/-- The catalogs have some contents, and no callback adds to them. -/
structure Holds (contents : CatalogName → Catalog) (s : State) : Prop where
  contents : ∀ n, s.catalog n = contents n
  callbacks : ∀ c ∈ s.callbacks, c.addsNothing = true

/-- The catalogs have some contents, no callback adds to them, and no source may be read. -/
structure Frozen (contents : CatalogName → Catalog) (s : State) : Prop
    extends Holds contents s where
  isSealed : Sealed s

/-- The catalogs have some contents, and the load mode leaves the state sealed. -/
structure Ready (contents : CatalogName → Catalog) (s : State) : Prop
    extends Holds contents s where
  guard : Sealed s ∨ Sealing s

section Keeping

variable {contents : CatalogName → Catalog}

theorem make_catalog (s : State) (n : CatalogName) : (s.make .empty).2.catalog n = s.catalog n := by
  show (s.catalogs ++ [.empty])[n]?.getD {} = s.catalogs[n]?.getD {}
  rw [List.getElem?_append]
  split_ifs with hn
  · rfl
  · rw [List.getElem?_eq_none (by omega : s.catalogs.length ≤ n)]
    cases n - s.catalogs.length <;> rfl

theorem holds_installs : Installs (Holds contents) where
  say _ hs := ⟨hs.contents, hs.callbacks⟩
  look {s} hs := by
    obtain ⟨hin, hcs⟩ := afterLook_inputs s
    exact ⟨fun n => (catalog_eq_of_catalogs hcs n).trans (hs.contents n),
      hin.callbacks ▸ hs.callbacks⟩
  write _ hs := ⟨hs.contents, hs.callbacks⟩
  make {s} hs := ⟨fun n => (make_catalog s n).trans (hs.contents n), hs.callbacks⟩
  count hs := ⟨hs.contents, hs.callbacks⟩

theorem frozen_installs : Installs (Frozen contents) where
  say log hs := ⟨holds_installs.say log hs.toHolds, hs.isSealed⟩
  look hs := ⟨holds_installs.look hs.toHolds, sealed_installs.look hs.isSealed⟩
  write name hs := ⟨holds_installs.write name hs.toHolds, hs.isSealed⟩
  make hs := ⟨holds_installs.make hs.toHolds, hs.isSealed⟩
  count hs := ⟨holds_installs.count hs.toHolds, hs.isSealed⟩

theorem ready_installs : Installs (Ready contents) where
  say log hs := ⟨holds_installs.say log hs.toHolds,
    hs.guard.imp (sealed_installs.say log) (sealing_installs.say log)⟩
  look hs := ⟨holds_installs.look hs.toHolds,
    hs.guard.imp sealed_installs.look sealing_installs.look⟩
  write name hs := ⟨holds_installs.write name hs.toHolds,
    hs.guard.imp (sealed_installs.write name) (sealing_installs.write name)⟩
  make hs := ⟨holds_installs.make hs.toHolds,
    hs.guard.imp sealed_installs.make sealing_installs.make⟩
  count hs := ⟨holds_installs.count hs.toHolds,
    hs.guard.imp sealed_installs.count sealing_installs.count⟩

theorem frozen_allows : Allows (fun c => c.addsNothing = true) (Frozen contents) where
  allowed hs := hs.callbacks
  callbacks hs hcs := ⟨⟨hs.contents, hcs⟩, hs.isSealed⟩
  call _ hs := ⟨⟨hs.contents, hs.callbacks⟩, hs.isSealed⟩

/-- The load mode changes no catalog, and leaves the state sealed. -/
theorem Ready.applied {s : State} (hs : Ready contents s) :
    Frozen contents (applyLoadMode s).2 := by
  have hsealed : Sealed (applyLoadMode s).2 := by
    rcases hs.guard with h | h
    · exact applyLoadMode_sealed s h
    · exact h.applied.2
  refine ⟨?_, hsealed⟩
  rw [applyLoadMode_run]
  exact ⟨hs.contents, hs.callbacks⟩

theorem Frozen.ready {s : State} (hs : Frozen contents s) : Ready contents s :=
  ⟨hs.toHolds, Or.inl hs.isSealed⟩

theorem populateInitial_frozen (name : CatalogName) :
    Keeps (Frozen contents) (populateInitial name) := by
  intro s hs
  rw [populateInitial_sealed name hs.isSealed]
  exact frozen_installs.say _ hs

theorem populateAdditions_frozen (name : CatalogName) :
    Keeps (Frozen contents) (populateAdditions name) := by
  intro s hs
  rw [populateAdditions_sealed name hs.isSealed]
  split_ifs
  · exact frozen_installs.say _ hs
  · exact hs

/-! ### Passes -/

section Passes

variable {inner : Inner} (hin : InnerKeeps (Frozen contents) inner)
include hin

theorem tellAll_frozen : Keeps (Frozen contents) (tellAll inner) :=
  tellAll_keeps addsNothing_closed frozen_allows fun place c hc =>
    act_keeps addsNothing_closed frozen_allows (fun _ _ => hin.populate) (fun _ _ => hin.ask)
      (fun _ _ _ hs => frozen_installs.write none hs)
      (fun _ _ h => by cases h) place hc

theorem afterMode_frozen (name : CatalogName) (needsInitial : Bool) :
    Keeps (Frozen contents) (afterMode inner name needsInitial none) :=
  afterMode_keeps (fun _ h => by cases h) (fun _ => populateInitial_frozen name)
    (populateAdditions_frozen name) (tellAll_frozen hin)

/-- The stages of a pass without a reset change no catalog. -/
theorem stages_frozen {s : State} (hs : Ready contents s) (name : CatalogName)
    (needsInitial : Bool) : Frozen contents (stages inner name needsInitial none s).2 := by
  rw [stages_eq]
  exact Keeps.after hs.applied fun _ => afterMode_frozen hin name needsInitial

end Passes

/-- The passes that callbacks can start change no catalog. -/
theorem passes_frozen (depth : Nat) : InnerKeeps (Frozen contents) (passes depth) :=
  passes_keep frozen_installs.places
    (fun _ hin name _ hs => stages_frozen hin hs.ready name true) depth

end Keeping

/-! ### Commands -/

/-- The items that a command resets a catalog to, if it is given any and all of them are there. -/
def Command.resetItems? : Command → Option (List Item)
  | .populate _ items => items.bind fun given => given.toExcept.toOption
  | _ => none

/-- What a command leaves in a catalog, sealed and with callbacks that add nothing: a pass with
items resets its catalog, unless the load mode is refused or not all of them are there. -/
def Command.contents (c : Command) (s : State) (n : CatalogName) : Catalog :=
  match c.resetItems?, s.loadMode with
  | some items, .ok _ =>
    if n = s.targetName ∧ n < s.targetCatalogs.length then ofItems items else s.catalog n
  | _, _ => s.catalog n

theorem contents_of_no_reset {c : Command} (h : c.resetItems? = none) (s : State) :
    c.contents s = s.catalog := by
  funext n
  rw [Command.contents, h]

theorem contents_of_refused (c : Command) {s : State} {e : Fault} (h : s.loadMode = .error e) :
    c.contents s = s.catalog := by
  funext n
  rw [Command.contents, h]
  cases c.resetItems? <;> rfl

theorem contents_of_reset {c : Command} {items : List Item} (hc : c.resetItems? = some items)
    {s : State} {r : Option Settings} (h : s.loadMode = .ok r) : c.contents s = fun n =>
      if n = s.targetName ∧ n < s.targetCatalogs.length then ofItems items else s.catalog n := by
  funext n
  rw [Command.contents, hc, h]

theorem loadMode_installs (m : Except Fault (Option Settings)) :
    Installs fun s => s.loadMode = m where
  say _ hs := hs
  look {s} hs := by
    unfold State.afterLook
    cases s.context.rival <;> exact hs
  write _ hs := hs
  make hs := hs
  count hs := hs

theorem setCatalog_catalog (s : State) (name : CatalogName) (c : Catalog) (n : CatalogName) :
    (s.setCatalog name c).catalog n =
      if n = name ∧ n < s.catalogs.length then c else s.catalog n := by
  show (s.catalogs.set name c)[n]?.getD {} = _
  rw [List.getElem?_set]
  by_cases hn : name = n
  · subst hn
    by_cases hlt : name < s.catalogs.length
    · rw [if_pos rfl, if_pos hlt, if_pos ⟨rfl, hlt⟩]
      rfl
    · rw [if_pos rfl, if_neg hlt, if_neg fun h => hlt h.2, State.catalog,
        List.getElem?_eq_none (Nat.le_of_not_lt hlt)]
  · rw [if_neg hn, if_neg fun h => hn h.1.symm]
    rfl

/-- **A pass** resets its catalog to the items that it is given, and changes no other. -/
theorem populate_holds {s : State} (hs : Ready s.catalog s) (depth : Nat) (needsInitial : Bool)
    (items : Option Catalog.Handover) : Holds (Command.contents (.populate needsInitial items) s)
      (populateCatalog (passes depth) needsInitial items s).2 := by
  have hin : ∀ contents, InnerKeeps (Frozen contents) (passes depth) := fun _ => passes_frozen depth
  have htarget := target_comes s
  have hu := target_keeps ready_installs.places s hs
  have hmode : (target s).2.loadMode = s.loadMode :=
    target_keeps (loadMode_installs s.loadMode).places s rfl
  rw [populateCatalog, counted_run, bind_of_ok htarget.result_eq, ← map_eq_pure_bind, map_run]
  refine holds_installs.count ?_
  cases items with
  | none =>
    rw [contents_of_no_reset rfl]
    exact (stages_frozen (hin s.catalog) hu _ needsInitial).toHolds
  | some l =>
    have hrun := applyLoadMode_run (target s).2
    have happlied := hu.applied
    rw [stages_eq]
    cases hr : s.loadMode with
    | error e =>
      rw [contents_of_refused _ hr, bind_of_error (by rw [hrun, hmode, hr]; rfl)]
      exact happlied.toHolds
    | ok settings =>
      rw [bind_of_ok (by rw [hrun, hmode, hr]; rfl), afterMode_some]
      obtain ⟨l, fault⟩ := l
      cases fault with
      | some e =>
        rw [contents_of_no_reset rfl, bind_run, resetTo_of_fault _ rfl]
        exact happlied.toHolds
      | none =>
        rw [contents_of_reset rfl hr]
        refine (Keeps.after (I := Frozen _) ?_ fun _ => afterMode_frozen (hin _) _ _).toHolds
        refine ⟨⟨fun n => ?_, happlied.callbacks⟩, happlied.isSealed⟩
        have hlength : (applyLoadMode (target s).2).2.catalogs.length =
          s.targetCatalogs.length := by
          rw [hrun, ← htarget.catalogs_eq]
          rfl
        rw [← happlied.contents n, ← hlength]
        exact setCatalog_catalog _ s.targetName (ofItems l) n

/-- **Every command** of a sealed session, and the pass that seals one. -/
theorem command_holds (c : Command) {s : State} (hguard : Guarded s [c])
    (hcalls : ∀ k ∈ s.callbacks, k.addsNothing = true) : Holds (c.contents s) (c.run s).2 := by
  have hready : Ready s.catalog s := ⟨⟨fun _ => rfl, hcalls⟩, hguard.imp id And.left⟩
  have hin : InnerKeeps (Frozen s.catalog) (passes (totalWeight s.callbacks)) := passes_frozen _
  have hfrozen : ¬ c.StartsPass s → Frozen s.catalog s := fun hc =>
    ⟨hready.toHolds, hguard.resolve_right fun h => hc h.2⟩
  have hbest : Keeps (Ready s.catalog) (bestEffort (passes (totalWeight s.callbacks))) :=
    bestEffort_keeps ready_installs.places fun _ _ _ ht => (stages_frozen hin ht _ true).ready
  cases c with
  | populate needsInitial items =>
    rw [Command.run, answer_snd, nested_run]
    exact populate_holds hready _ needsInitial items
  | bestEffort =>
    rw [contents_of_no_reset rfl, Command.run, answer_snd, nested_run]
    exact (hbest s hready).toHolds
  | getCatalog =>
    rw [contents_of_no_reset rfl, Command.run, answer_snd, nested_run]
    exact (getCatalog_keeps ready_installs.places hbest s hready).toHolds
  | applyLoadMode =>
    rw [contents_of_no_reset rfl, Command.run, answer_snd]
    exact hready.applied.toHolds
  | populateInitial name =>
    rw [contents_of_no_reset rfl, Command.run, answer_snd]
    exact (populateInitial_frozen name s (hfrozen id)).toHolds
  | populateAdditions name =>
    rw [contents_of_no_reset rfl, Command.run, answer_snd]
    exact (populateAdditions_frozen name s (hfrozen id)).toHolds
  | tell =>
    rw [contents_of_no_reset rfl, Command.run, answer_snd, nested_run]
    exact (tellAll_frozen hin s (hfrozen id)).toHolds
  | install new message preferNew =>
    rw [contents_of_no_reset rfl, Command.run, answer_snd]
    exact install_keeps holds_installs new message preferNew s hready.toHolds
  | enter context =>
    rw [contents_of_no_reset rfl]
    exact ⟨fun _ => rfl, hcalls⟩

/-! ### Sessions -/

theorem guarded_single {s : State} {c : Command} {rest : List Command}
    (h : Guarded s (c :: rest)) : Guarded s [c] := h

/-- No callback starts to add items. -/
theorem session_callbacks {s : State} {commands : List Command} (h : Guarded s commands)
    (hcalls : ∀ k ∈ s.callbacks, k.addsNothing = true) :
    ∀ k ∈ (session commands s).2.callbacks, k.addsNothing = true := by
  induction commands generalizing s with
  | nil => exact hcalls
  | cons c rest ih =>
    exact ih (guarded_of_sealed (guarded_isolates h).isSealed rest)
      (command_holds c (guarded_single h) hcalls).callbacks

/-- The last command of a session starts from where the others end. -/
theorem guarded_last {s : State} {rest : List Command} {c : Command}
    (h : Guarded s (rest ++ [c])) (hcalls : ∀ k ∈ s.callbacks, k.addsNothing = true) :
    Guarded (session rest s).2 [c] ∧
      ∀ k ∈ (session rest s).2.callbacks, k.addsNothing = true := by
  cases rest with
  | nil => exact ⟨h, hcalls⟩
  | cons first rest =>
    have hrest : Guarded s (first :: rest) := h
    exact ⟨guarded_of_sealed (session_sealed hrest) [c], session_callbacks hrest hcalls⟩

theorem session_holds {s : State} {rest : List Command} {c : Command}
    (h : Guarded s (rest ++ [c])) (hcalls : ∀ k ∈ s.callbacks, k.addsNothing = true) :
    Holds (c.contents (session rest s).2) (session (rest ++ [c]) s).2 := by
  obtain ⟨hguard, hlast⟩ := guarded_last h hcalls
  rw [session_append]
  exact command_holds c hguard hlast

/-- **Isolation:** a session that is sealed from the start, or by its first pass, stays sealed,
fetches and asks for nothing and makes no loader. Another session whose sources differ gives the
same answers, faults included, and leaves the same catalogs. If no callback adds items, every
command leaves the catalogs as they were, except that a pass with items resets its catalog to them,
unless the load mode is refused or not all of them are there. -/
theorem sealed_session {s : State} {commands : List Command} (h : Guarded s commands) :
    Sealed (session commands s).2 ∧ SourcesKept s (session commands s).2 ∧
    (∀ t commands', Alike s t → List.Forall₂ Command.Matches commands commands' →
      (session commands' t).1 = (session commands s).1 ∧
        Alike (session commands s).2 (session commands' t).2) ∧
    (∀ rest c, commands = rest ++ [c] → (∀ k ∈ s.callbacks, k.addsNothing = true) →
      ∀ n, (session commands s).2.catalog n = c.contents (session rest s).2 n) := by
  refine ⟨session_sealed h, session_sources h, fun t commands' ht hc => session_alike h ht hc,
    fun rest c hlast hcalls n => ?_⟩
  subst hlast
  exact (session_holds h hcalls).contents n

/-- A context whose load mode says that nothing is read. -/
def persistedContext : Context where
  config := { settings :=
    [(.text "catalog", .map [(.text "load_mode", .text "Load_Persisted_State")])] }
  attached := true

/-- A state that its first pass seals, and that names sources. -/
def persistedState : State where
  context := persistedContext
  settings := { initialUri := some "mem://initial", additionsUri := some "mem://more" }
  callbacks := [.populates 1, .clears 2]

theorem persistedState_sealing : Sealing persistedState where
  unread := rfl
  mode := by
    have hfind : (LoadMode.all.find? fun m => m.word ==
        LoadMode.normalize (persistedContext.config.get LoadMode.setting).display) =
        some .persistedState := by decide +kernel
    rw [LoadMode.coerce, show persistedState.context = persistedContext from rfl,
      if_neg (by decide +kernel), hfind]

/-- Without the address, the same commands give the same answers. -/
theorem sealed_session_of_persisted_state :
    let commands := [.populate true none, .populateInitial 0, .getCatalog]
    let other := persistedState.withSources { persistedState.sources with initialUri := none }
    Sealed (session commands persistedState).2 ∧
      (session commands other).1 = (session commands persistedState).1 := by
  intro commands other
  obtain ⟨hsealed, -, halike, -⟩ :=
    @sealed_session persistedState commands (Or.inr ⟨persistedState_sealing, trivial⟩)
  exact ⟨hsealed, (halike other commands ⟨rfl, rfl, rfl⟩
    (List.forall₂_same.mpr fun c _ => .same c)).1⟩

end ItemCatalog.Population
