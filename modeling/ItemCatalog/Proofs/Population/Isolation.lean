import ItemCatalog.Proofs.Population.Session
import ItemCatalog.Proofs.Population.Sources
import Mathlib.Data.List.Forall2

/-! # Isolation: sessions in which no source may be read

A session is sealed from the start, or by its first pass if the load mode of the context says so.
From then on nothing is read: what was fetched and asked for stays as it was, the loader is not
made, and two sessions that differ in their sources only give the same answers and leave the same
state. What a catalog holds is changed by the resets of passes and by callbacks that add items, and
by nothing else. -/

namespace ItemCatalog.Population

open Step Catalog

/-! ### Differing in the sources only -/

/-- Two states that differ in their sources only. -/
structure Alike (s t : State) : Prop where
  sources : t = s.withSources t.sources
  mode : SameMode t.sources s

/-- Two commands that differ in the sources of the contexts that they enter only. -/
inductive Command.Matches : Command → Command → Prop
  | same (c : Command) : Matches c c
  | enter {a b : Context} (h : b = { a with config := b.config })
      (hmode : b.config.get LoadMode.setting = a.config.get LoadMode.setting) :
      Matches (.enter a) (.enter b)

theorem Blind.alike {α : Type} {φ : State → Prop} {p : Step α} (hp : Blind φ p) {s t : State}
    (hs : φ s) (h : Alike s t) : (p t).1 = (p s).1 ∧ Alike (p s).2 (p t).2 := by
  have hrun := hp s t.sources hs h.mode
  rw [← h.sources] at hrun
  rw [hrun]
  exact ⟨rfl, rfl, hp.sameMode hs h.mode⟩

/-! ### Commands in sealed states -/

/-- What a command does to the sources: entering a context changes the configuration. -/
def SourcesKept (s t : State) : Prop :=
  t.sources = { s.sources with config := t.context.config }

theorem SourcesKept.trans {s t u : State} (h : SourcesKept s t) (h' : SourcesKept t u) :
    SourcesKept s u := by
  rw [SourcesKept, h', h]

theorem sourcesKept_of_eq {s t : State} (h : t.sources = s.sources) : SourcesKept s t := by
  rw [SourcesKept, h]
  exact congrArg (fun c => { s.sources with config := c }) (congrArg Sources.config h).symm

/-- A command, from a state, leaves the sources unread and the state sealed. -/
structure Command.Isolates (c : Command) (s : State) : Prop where
  isSealed : Sealed (c.run s).2
  kept : SourcesKept s (c.run s).2
  alike : ∀ {t c'}, Alike s t → c.Matches c' →
    (c'.run t).1 = (c.run s).1 ∧ Alike (c.run s).2 (c'.run t).2

theorem isolates_of_step {α : Type} {φ : State → Prop} {c : Command} {s : State}
    {f : Except Fault α → Answer} {p : Step α} (hrun : c.run = answer f p)
    (hsame : ∀ c', c.Matches c' → c' = c) (hp : Blind φ p) (hs : φ s) (hsealed : Sealed (p s).2) :
    c.Isolates s where
  isSealed := by
    rw [hrun]
    exact hsealed
  kept := by
    rw [hrun]
    exact sourcesKept_of_eq (hp.sources_eq hs)
  alike {t c'} ht hc := by
    obtain rfl := hsame c' hc
    obtain ⟨hanswer, hstate⟩ := hp.alike hs ht
    rw [hrun]
    exact ⟨congrArg f hanswer, hstate⟩

theorem isolates_of_isolated {α : Type} {c : Command} {s : State} {f : Except Fault α → Answer}
    {p : Step α} (hrun : c.run = answer f p) (hsame : ∀ c', c.Matches c' → c' = c)
    (hp : Isolated p) (hs : Sealed s) : c.Isolates s :=
  isolates_of_step hrun hsame hp.blind hs (hp.keeps s hs)

theorem enter_alike {s t : State} {a b : Context} (ht : Alike s t)
    (h : b = { a with config := b.config })
    (hmode : b.config.get LoadMode.setting = a.config.get LoadMode.setting) :
    Alike { s with context := a } { t with context := b } := by
  refine ⟨?_, hmode, ht.mode.console⟩
  rw [ht.sources, h]
  rfl

/-- **Every command** from a sealed state. -/
theorem command_isolates (c : Command) {s : State} (hs : Sealed s) : c.Isolates s := by
  cases c with
  | populate needsInitial items =>
    exact isolates_of_isolated rfl (fun _ h => by cases h; rfl)
      (isolated_composes.nested fun _ hpopulate hask =>
        isolated_composes.populateCatalog hpopulate hask needsInitial items) hs
  | bestEffort =>
    exact isolates_of_isolated rfl (fun _ h => by cases h; rfl)
      (isolated_composes.nested fun _ => isolated_composes.bestEffort) hs
  | getCatalog =>
    exact isolates_of_isolated rfl (fun _ h => by cases h; rfl)
      (isolated_composes.nested fun _ => isolated_composes.getCatalog) hs
  | applyLoadMode =>
    exact isolates_of_isolated rfl (fun _ h => by cases h; rfl) applyLoadMode_isolated hs
  | populateInitial name =>
    exact isolates_of_isolated rfl (fun _ h => by cases h; rfl) (populateInitial_isolated name) hs
  | populateAdditions name =>
    exact isolates_of_isolated rfl (fun _ h => by cases h; rfl)
      (populateAdditions_isolated name) hs
  | tell =>
    exact isolates_of_isolated rfl (fun _ h => by cases h; rfl)
      (isolated_composes.nested fun _ => isolated_composes.tellAll) hs
  | install new message preferNew =>
    exact isolates_of_isolated rfl (fun _ h => by cases h; rfl)
      (install_isolated new message preferNew) hs
  | enter context =>
    refine ⟨hs, rfl, fun {t c'} ht hc => ⟨?_, ?_⟩⟩
    · cases hc <;> rfl
    · cases hc with
      | same => exact enter_alike ht rfl rfl
      | enter h hmode => exact enter_alike ht h hmode

/-! ### The pass that seals -/

/-- The load mode was not read yet, and it says that no source may be read. -/
structure Sealing (s : State) : Prop where
  unread : s.modeRead.isSet = false
  mode : LoadMode.coerce (s.context.config.get LoadMode.setting) = .ok .persistedState

/-- Whether a command starts a pass. -/
def Command.StartsPass (s : State) : Command → Prop
  | .populate _ _ => True
  | .bestEffort => s.context.slot = none ∧ s.context.rival = none
  | .getCatalog => s.context.slot = none ∧ s.context.rival = none ∧ s.context.attached = true
  | _ => False

theorem sealing_installs : Installs Sealing where
  say _ hs := ⟨hs.unread, hs.mode⟩
  look {s} hs := by
    unfold State.afterLook
    cases s.context.rival with
    | none => exact hs
    | some r => exact ⟨hs.unread, hs.mode⟩
  write _ hs := ⟨hs.unread, hs.mode⟩
  make hs := ⟨hs.unread, hs.mode⟩
  count hs := ⟨hs.unread, hs.mode⟩

theorem Sealing.loadMode {s : State} (hs : Sealing s) :
    s.loadMode = .ok (some (LoadMode.persistedState.adjust s.settings)) := by
  have hnull : s.context.config.get LoadMode.setting ≠ .null := by
    intro h
    have hmode := hs.mode
    have hnone : (LoadMode.all.find? fun m => m.word == LoadMode.normalize Value.null.display) =
        none := by decide +kernel
    rw [h, LoadMode.coerce, if_neg (by decide), hnone] at hmode
    cases hmode
  rw [loadMode_eq, if_neg (by rw [hs.unread]; decide), readMode_of_ne_null hnull, hs.mode]

theorem Sealing.applied {s : State} (hs : Sealing s) :
    (applyLoadMode s).1 = .ok () ∧ Sealed (applyLoadMode s).2 := by
  rw [applyLoadMode_run, State.modeSettings, hs.loadMode]
  exact ⟨rfl, rfl⟩

section Sealing

variable {inner : Inner} (hin : IsolatedInner inner)
include hin

/-- The stages of the first pass leave the state sealed. -/
theorem stages_seal {s : State} (hs : Sealing s) (name : CatalogName) (needsInitial : Bool)
    (items : Option Catalog.Handover) : Sealed (stages inner name needsInitial items s).2 := by
  obtain ⟨hok, hsealed⟩ := hs.applied
  rw [stages_eq, bind_of_ok hok]
  exact (afterMode_isolated hin name needsInitial items).keeps _ hsealed

theorem populateCatalog_seals {s : State} (hs : Sealing s) (needsInitial : Bool)
    (items : Option Catalog.Handover) : Sealed (populateCatalog inner needsInitial items s).2 := by
  rw [pass_run]
  exact stages_seal hin (target_keeps sealing_installs.places s hs) _ needsInitial items

theorem bestEffort_seals {s : State} (hs : Sealing s) (hslot : s.context.slot = none)
    (hrival : s.context.rival = none) : Sealed (bestEffort inner s).2 := by
  have hlook : look s = (.ok none, s) := by
    rw [look_run, hslot, State.afterLook, hrival]
  let t := (s.make .empty).2
  have ht : Sealing t := sealing_installs.make hs
  have hinstall := (install_comes s.catalogs.length reverting_isPlain false t).result_eq
  rw [show t.context.slot = none from hslot] at hinstall
  have hrun : bestEffort inner s = (counted (stages inner s.catalogs.length true none) >>=
      fun _ => look) (install s.catalogs.length (some revertingMessage) false t).2 := by
    rw [bestEffort, bind_run, hlook]
    exact bind_of_ok hinstall
  rw [hrun]
  exact Keeps.after (stages_seal hin (install_keeps sealing_installs _ _ false t ht) _ true none)
    fun _ => isolated_composes.look.keeps

theorem getCatalog_seals {s : State} (hs : Sealing s) (hslot : s.context.slot = none)
    (hrival : s.context.rival = none) (hattached : s.context.attached = true) :
    Sealed (getCatalog inner s).2 := by
  have hlook : look s = (.ok none, s) := by
    rw [look_run, hslot, State.afterLook, hrival]
  have hrun : getCatalog inner s = bestEffort inner s := by
    rw [getCatalog, bind_run, hlook]
    simp only [bind_run, get_run, hattached, if_true]
  rw [hrun]
  exact bestEffort_seals hin hs hslot hrival

end Sealing

/-- **The first pass** from a state that it seals. -/
theorem firstPass_isolates (c : Command) {s : State} (hs : Sealing s) (hc : c.StartsPass s) :
    c.Isolates s := by
  have hmode : ∀ s (a : Unit), Sealing s → (applyLoadMode s).1 = .ok a →
      Sealed (applyLoadMode s).2 := fun s _ hs _ => hs.applied.2
  cases c with
  | populate needsInitial items =>
    have hblind : Blind Sealing (nested fun inner => populateCatalog inner needsInitial items) :=
      nested_blind fun depth =>
        populateCatalog_blind (passes_isolated depth) hmode sealing_installs needsInitial items
    refine isolates_of_step rfl (fun _ h => by cases h; rfl) hblind hs ?_
    rw [nested_run]
    exact populateCatalog_seals (passes_isolated _) hs needsInitial items
  | bestEffort =>
    have hblind : Blind Sealing (nested bestEffort) := nested_blind fun depth =>
      bestEffort_blind (passes_isolated depth) hmode sealing_installs
    refine isolates_of_step rfl (fun _ h => by cases h; rfl) hblind hs ?_
    rw [nested_run]
    exact bestEffort_seals (passes_isolated _) hs hc.1 hc.2
  | getCatalog =>
    have hblind : Blind Sealing (nested getCatalog) := nested_blind fun depth =>
      getCatalog_blind (passes_isolated depth) hmode sealing_installs
    refine isolates_of_step rfl (fun _ h => by cases h; rfl) hblind hs ?_
    rw [nested_run]
    exact getCatalog_seals (passes_isolated _) hs hc.1 hc.2.1 hc.2.2
  | _ => exact hc.elim

/-! ### Sessions -/

/-- A session that is sealed from the start, or by the pass that its first command starts. -/
def Guarded (s : State) : List Command → Prop
  | [] => Sealed s
  | c :: _ => Sealed s ∨ (Sealing s ∧ c.StartsPass s)

theorem guarded_of_sealed {s : State} (hs : Sealed s) (commands : List Command) :
    Guarded s commands := by
  cases commands with
  | nil => exact hs
  | cons c rest => exact Or.inl hs

theorem guarded_isolates {s : State} {c : Command} {rest : List Command}
    (h : Guarded s (c :: rest)) : c.Isolates s := by
  rcases h with hs | ⟨hs, hc⟩
  · exact command_isolates c hs
  · exact firstPass_isolates c hs hc

theorem session_sealed {s : State} {commands : List Command} (h : Guarded s commands) :
    Sealed (session commands s).2 := by
  induction commands generalizing s with
  | nil => exact h
  | cons c rest ih => exact ih (guarded_of_sealed (guarded_isolates h).isSealed rest)

theorem session_sources {s : State} {commands : List Command} (h : Guarded s commands) :
    SourcesKept s (session commands s).2 := by
  induction commands generalizing s with
  | nil => exact sourcesKept_of_eq rfl
  | cons c rest ih =>
    have hc := guarded_isolates h
    exact hc.kept.trans (ih (guarded_of_sealed hc.isSealed rest))

/-- **Two sessions** that differ in their sources only give the same answers, and leave states that
differ in their sources only. -/
theorem session_alike {s t : State} {commands commands' : List Command} (h : Guarded s commands)
    (ht : Alike s t) (hc : List.Forall₂ Command.Matches commands commands') :
    (session commands' t).1 = (session commands s).1 ∧
      Alike (session commands s).2 (session commands' t).2 := by
  induction hc generalizing s t with
  | nil => exact ⟨rfl, ht⟩
  | cons hmatch _ ih =>
    have hiso := guarded_isolates h
    obtain ⟨hanswer, hstate⟩ := hiso.alike ht hmatch
    obtain ⟨hanswers, hfinal⟩ := ih (guarded_of_sealed hiso.isSealed _) hstate
    refine ⟨?_, hfinal⟩
    rw [session, session, hanswer, hanswers]

end ItemCatalog.Population
