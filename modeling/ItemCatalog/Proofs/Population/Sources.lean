import ItemCatalog.Proofs.Population.Passes
import Mathlib.Tactic.SplitIfs

/-! # Sources: steps that do not look at where items are read from

The sources of a state are everything that initial catalogs and additions are read from: the address
in the settings, the configuration apart from the load mode, the surroundings apart from the
console, the providers and the loader; with them goes the record of what was fetched and asked for.
A step is `Blind` if it does the same whatever the sources are, and leaves them as they are. If no
source may be read (`Sealed`), all stages of a pass are blind, and so are the passes: what holds of
the stages, and of what is put together from steps, holds of passes (`Composes`). -/

namespace ItemCatalog.Population

open Step

/-! ### The sources of a state -/

/-- What initial catalogs and additions are read from, and the record of it. -/
structure Sources where
  initialUri : Option String
  config : Config
  around : Surroundings
  providers : List Provider
  loader : Option Resource.Loader
  fetched : List String
  requests : List String
  asked : List Nat

namespace State

/-- The sources. -/
def sources (s : State) : Sources where
  initialUri := s.settings.initialUri
  config := s.context.config
  around := s.around
  providers := s.providers
  loader := s.loader
  fetched := s.trace.fetched
  requests := s.trace.requests
  asked := s.trace.asked

/-- The state with other sources. -/
def withSources (s : State) (x : Sources) : State :=
  { s with
    context := { s.context with config := x.config }
    around := x.around
    settings := { s.settings with initialUri := x.initialUri }
    providers := x.providers
    loader := x.loader
    trace := { s.trace with fetched := x.fetched, requests := x.requests, asked := x.asked } }

@[simp] theorem withSources_sources (s : State) : s.withSources s.sources = s := rfl

@[simp] theorem sources_withSources (s : State) (x : Sources) : (s.withSources x).sources = x := rfl

@[simp] theorem withSources_withSources (s : State) (x y : Sources) :
    (s.withSources x).withSources y = s.withSources y := rfl

end State

/-- Sources that come with the load mode and the console that a state has. -/
structure SameMode (x : Sources) (s : State) : Prop where
  mode : x.config.get LoadMode.setting = s.context.config.get LoadMode.setting
  console : x.around.console = s.around.console

/-! ### Blind steps -/

/-- A step that, from some states, does the same with all sources, and leaves them as they are. -/
def Blind {α : Type} (φ : State → Prop) (p : Step α) : Prop :=
  ∀ s x, φ s → SameMode x s → p (s.withSources x) = ((p s).1, (p s).2.withSources x)

namespace Blind

variable {α β : Type} {φ ψ : State → Prop} {p : Step α} {f : α → Step β}

/-- With its own sources for others, a blind step leaves them. -/
theorem sources_eq (hp : Blind φ p) {s : State} (hs : φ s) : (p s).2.sources = s.sources := by
  have h := hp s s.sources hs ⟨rfl, rfl⟩
  rw [State.withSources_sources] at h
  exact congrArg (fun r => r.2.sources) h

theorem sameMode (hp : Blind φ p) {s : State} (hs : φ s) {x : Sources} (hx : SameMode x s) :
    SameMode x (p s).2 := by
  have hconfig : (p s).2.context.config = s.context.config :=
    congrArg Sources.config (hp.sources_eq hs)
  have haround : (p s).2.around = s.around := congrArg Sources.around (hp.sources_eq hs)
  exact ⟨hconfig ▸ hx.mode, haround ▸ hx.console⟩

theorem pure (a : α) : Blind φ (pure a : Step α) := fun _ _ _ _ => rfl

theorem throw (e : Fault) : Blind φ (throw e : Step α) := fun _ _ _ _ => rfl

theorem modify {g : State → State} (hg : ∀ s x, g (s.withSources x) = (g s).withSources x) :
    Blind φ (modify g : Step PUnit) := fun s x _ _ => by
  rw [modify_run, modify_run, hg]

theorem bind (hp : Blind φ p) (hpost : ∀ s a, φ s → (p s).1 = .ok a → ψ (p s).2)
    (hf : ∀ a, Blind ψ (f a)) : Blind φ (p >>= f) := by
  intro s x hs hx
  have hrun := hp s x hs hx
  cases hr : (p s).1 with
  | error e =>
    rw [hr] at hrun
    rw [bind_of_error hr, bind_of_error (congrArg Prod.fst hrun), hrun]
  | ok a =>
    rw [hr] at hrun
    rw [bind_of_ok hr, bind_of_ok (congrArg Prod.fst hrun), hrun]
    exact hf a _ x (hpost s a hs hr) (hp.sameMode hs hx)

theorem bind_any (hp : Blind φ p) (hf : ∀ a, Blind (fun _ => True) (f a)) : Blind φ (p >>= f) :=
  hp.bind (fun _ _ _ _ => trivial) hf

/-- A look at the state that does not use its sources. -/
theorem get_bind {f : State → Step β} (hread : ∀ s x, f (s.withSources x) = f s)
    (hf : ∀ s, Blind φ (f s)) : Blind φ (get >>= f) := by
  intro s x hs hx
  show f (s.withSources x) (s.withSources x) = _
  rw [hread]
  exact hf s s x hs hx

theorem discard (hp : Blind φ p) : Blind φ (discard p) := by
  intro s x hs hx
  rw [discard_run, discard_run, hp s x hs hx]

theorem recover {p q : Step Unit} (hp : Blind φ p)
    (hpost : ∀ s, φ s → φ (p s).2) (hq : Blind φ q) : Blind φ (recover p q) := by
  intro s x hs hx
  have hrun := hp s x hs hx
  have hpost := hpost s hs
  have hmode := hp.sameMode hs hx
  rcases h : p s with ⟨e | a, t⟩ <;> rw [h] at hrun hpost hmode
  · cases he : e.isFatal with
    | true => rw [recover_of_fatal hrun he, recover_of_fatal h he]
    | false =>
      rw [recover_of_ordinary hrun he, recover_of_ordinary h he]
      exact hq t x hpost hmode
  · rw [recover_of_ok hrun, recover_of_ok h]

theorem counted (hp : Blind φ p) : Blind φ (counted p) := by
  intro s x hs hx
  rw [counted_run, counted_run, hp s x hs hx]
  rfl

theorem mono (hp : Blind ψ p) (h : ∀ s, φ s → ψ s) : Blind φ p :=
  fun s x hs hx => hp s x (h s hs) hx

end Blind

/-! ### The bookkeeping of passes -/

section Bookkeeping

variable {φ : State → Prop} {β : Type}

theorem afterLook_withSources (s : State) (x : Sources) :
    (s.withSources x).afterLook = s.afterLook.withSources x := by
  unfold State.afterLook State.withSources
  cases s.context.rival <;> rfl

theorem say_blind (log : List Log.Record) : Blind φ (say log) :=
  Blind.modify fun _ _ => rfl

theorem report_blind (log : List Log.Record) : Blind φ (report log) := fun s x _ hx => by
  have hconsole : (s.withSources x).around.console = s.around.console := hx.console
  rw [report_run, report_run, State.reported, State.reported, State.afterReport, State.afterReport,
    hconsole]
  rfl

theorem look_blind : Blind φ look := fun s x _ _ => by
  rw [look_run, look_run, afterLook_withSources]
  rfl

theorem make_blind (c : Catalog) : Blind φ (make c) := fun _ _ _ _ => rfl

theorem sayIf_blind {b : Prop} [Decidable b] {log : List Log.Record} {f : Unit → Step β}
    (hf : Blind φ (f ())) (hsay : ∀ s, φ s → φ (s.say log)) :
    Blind φ (if b then say log >>= f else f ()) := by
  split_ifs
  · exact (say_blind log).bind (fun s _ hs _ => hsay s hs) fun _ => hf
  · exact hf

theorem foldl_write_withSources (names : List (Option CatalogName)) (s : State) (x : Sources) :
    names.foldl State.write (s.withSources x) = (names.foldl State.write s).withSources x := by
  induction names generalizing s with
  | nil => rfl
  | cons name rest ih => exact ih (s.write name)

theorem foldl_write_modeRead (names : List (Option CatalogName)) (s : State) :
    (names.foldl State.write s).modeRead = s.modeRead := by
  induction names generalizing s with
  | nil => rfl
  | cons name rest ih => exact ih (s.write name)

theorem install_blind (new : CatalogName) (message : Option String) (preferNew : Bool) :
    Blind (fun _ => True) (install new message preferNew) := by
  refine look_blind.bind_any fun previous => ?_
  refine Blind.bind_any (Blind.modify fun s x => foldl_write_withSources _ s x) fun _ => ?_
  split
  · exact (report_blind _).bind_any fun _ => Blind.pure previous
  · exact Blind.pure previous

theorem target_blind : Blind (fun _ => True) target := by
  refine look_blind.bind_any fun slot => ?_
  cases slot with
  | none =>
    refine Blind.get_bind (fun _ _ => rfl) fun s => sayIf_blind ?_ fun _ _ => trivial
    refine (make_blind _).bind_any fun name => ?_
    exact (Blind.discard (install_blind name _ true)).bind_any fun _ => Blind.pure name
  | some name =>
    exact Blind.get_bind (fun _ _ => rfl) fun s => sayIf_blind (Blind.pure name) fun _ _ => trivial

theorem adjust_withUri (m : LoadMode) (t : Settings) (uri : Option String) :
    m.adjust { t with initialUri := uri } = { m.adjust t with initialUri := uri } := by
  cases m <;> rfl

/-- The load mode adjusts the settings without looking at the address in them. -/
theorem readMode_withUri {c c' : Config} (h : c'.get LoadMode.setting = c.get LoadMode.setting)
    (t : Settings) (uri : Option String) :
    LoadMode.read c' { t with initialUri := uri } =
      ((LoadMode.read c t).1.map fun r => r.map fun t => { t with initialUri := uri },
        (LoadMode.read c t).2) := by
  by_cases hv : c.get LoadMode.setting = .null
  · unfold LoadMode.read
    rw [h, hv]
    rfl
  · rw [readMode_of_ne_null hv, readMode_of_ne_null (h ▸ hv), h]
    cases LoadMode.coerce (c.get LoadMode.setting) with
    | error e => rfl
    | ok m =>
      simp only [adjust_withUri]
      rfl

theorem applyMode_withSources {s : State} {x : Sources} (hx : SameMode x s) :
    LoadMode.apply s.modeRead x.config { s.settings with initialUri := x.initialUri } =
      ((s.loadMode.map fun r => r.map fun t => { t with initialUri := x.initialUri },
          (LoadMode.apply s.modeRead s.context.config s.settings).1.2),
        (LoadMode.apply s.modeRead s.context.config s.settings).2) := by
  rw [State.loadMode]
  unfold LoadMode.apply
  rcases s.modeRead.compareAndSet false true with ⟨applies, flag⟩
  cases applies with
  | false => rfl
  | true =>
    simp only [readMode_withUri hx.mode]

theorem applyLoadMode_blind : Blind (fun _ => True) applyLoadMode := by
  intro s x _ hx
  have happly := applyMode_withSources hx
  have hmode : (s.withSources x).loadMode =
      s.loadMode.map fun r => r.map fun t => { t with initialUri := x.initialUri } :=
    congrArg (fun r => r.1.1) happly
  have hsettings : (s.withSources x).modeSettings =
      { s.modeSettings with initialUri := x.initialUri } := by
    rw [State.modeSettings, State.modeSettings, hmode]
    rcases s.loadMode with e | _ | t <;> rfl
  have hsettled : (s.withSources x).modeSettled = s.modeSettled.withSources x := by
    unfold State.modeSettled
    rw [show LoadMode.apply (s.withSources x).modeRead (s.withSources x).context.config
      (s.withSources x).settings = _ from happly]
    rfl
  rw [applyLoadMode_run, applyLoadMode_run, hmode, hsettings, hsettled]
  rcases s.loadMode with e | r <;> rfl

end Bookkeeping

/-! ### Sealed states -/

/-- No source may be read. -/
def Sealed (s : State) : Prop :=
  s.settings.disallowLocal = true

theorem addAsked_zero (counts : List Nat) : State.addAsked counts 0 = counts := by
  simp [State.addAsked]

/-- Sealed, the initial load says at most that nothing is read. -/
theorem populateInitial_sealed (name : CatalogName) {s : State} (hs : Sealed s) :
    populateInitial name s =
      (.ok none, s.say (if !s.runs.hasRun then [Source.disallowedNote] else [])) := by
  have hresolve : Source.resolve s.settings s.context.config s.around s.providers
      (!s.runs.hasRun) = { result := .ok none, log := if !s.runs.hasRun then
        [Source.disallowedNote] else [] } := if_pos hs
  have hask : s.ask 0 = s := by
    unfold State.ask
    rw [addAsked_zero]
  have hsource : resolveSource s =
      (.ok none, s.say (if !s.runs.hasRun then [Source.disallowedNote] else [])) := by
    unfold resolveSource
    rw [bind_run, get_run]
    simp only [hresolve, bind_run, modify_run, say_run, ofExcept_run, hask]
  rw [populateInitial, bind_run, hsource]
  simp only [bind_run, get_run]
  rw [if_neg (by rw [show (s.say _).settings.disallowLocal = true from hs]; decide)]
  rfl

/-- Sealed, additions are left out with a warning in the first pass. -/
theorem populateAdditions_sealed (name : CatalogName) {s : State} (hs : Sealed s) :
    populateAdditions name s = (.ok none,
      if s.additionsUri?.isSome && !s.runs.hasRun then s.say [additionsNote] else s) := by
  have hd : s.settings.disallowLocal = true := hs
  unfold populateAdditions
  rw [bind_run, get_run]
  cases huri : s.additionsUri? with
  | none =>
    rw [State.additionsUri?] at huri
    simp only [huri]
    rfl
  | some uri =>
    rw [State.additionsUri?] at huri
    simp only [huri, hd, if_true, Option.isSome_some, Bool.true_and]
    split_ifs <;> rfl

theorem adjust_disallowLocal (m : LoadMode) {t : Settings} (h : t.disallowLocal = true) :
    (m.adjust t).disallowLocal = true := by
  cases m
  · exact h
  · exact h
  · rfl

theorem applyLoadMode_sealed : Keeps Sealed applyLoadMode := by
  intro s hs
  rw [applyLoadMode_run]
  show s.modeSettings.disallowLocal = true
  rw [State.modeSettings]
  rcases loadMode_cases s with h | ⟨e, h⟩ | ⟨m, -, h⟩ <;> rw [h]
  · exact hs
  · exact hs
  · exact adjust_disallowLocal m hs

/-! ### From stages to passes -/

/-- A property of steps that goes over to what is put together from them. Between the stages, only
the catalogs, the slot, the callbacks, the count and the record of calls and writes are looked at
and changed. -/
structure Composes (P : {α : Type} → Step α → Prop) : Prop where
  pure : ∀ {α : Type} (a : α), P (pure a : Step α)
  throw : ∀ {α : Type} (e : Fault), P (throw e : Step α)
  bind : ∀ {α β : Type} {p : Step α} {f : α → Step β}, P p → (∀ a, P (f a)) → P (p >>= f)
  recover : ∀ {p q : Step Unit}, P p → P q → P (recover p q)
  counted : ∀ {α : Type} {p : Step α}, P p → P (counted p)
  seeing : ∀ {β : Type} {f : State → Step β}, (∀ s x, f (s.withSources x) = f s) →
    (∀ s, P (f s)) → P (get >>= f)
  changing : ∀ {g : State → State}, (∀ s x, g (s.withSources x) = (g s).withSources x) →
    (∀ s, (g s).settings = s.settings) → (∀ s, (g s).modeRead = s.modeRead) →
    P (modify g : Step PUnit)
  mode : P applyLoadMode
  initial : ∀ name, P (populateInitial name)
  additions : ∀ name, P (populateAdditions name)

namespace Composes

variable {P : {α : Type} → Step α → Prop} (hP : Composes P)
include hP

theorem discard {α : Type} {p : Step α} (hp : P p) : P (discard p) := by
  show P ((fun _ => ()) <$> p)
  rw [map_eq_pure_bind]
  exact hP.bind hp fun _ => hP.pure ()

theorem ofExcept {α : Type} (r : Except Fault α) : P (ofExcept r : Step α) := by
  cases r with
  | error e => exact hP.throw e
  | ok a => exact hP.pure a

theorem say (log : List Log.Record) : P (say log) :=
  hP.changing (fun _ _ => rfl) (fun _ => rfl) fun _ => rfl

theorem sayIf {β : Type} {b : Prop} [Decidable b] {log : List Log.Record} {f : Unit → Step β}
    (hf : P (f ())) : P (if b then Step.say log >>= f else f ()) := by
  split_ifs
  · exact hP.bind (hP.say log) fun _ => hf
  · exact hf

theorem look : P look := by
  show P (get >>= fun s => modify State.afterLook >>= fun _ => Pure.pure s.context.slot)
  refine hP.seeing (fun _ _ => rfl) fun s => hP.bind (hP.changing afterLook_withSources ?_ ?_)
    fun _ => hP.pure _
  · exact fun s => (afterLook_inputs s).1.settings
  · intro s
    unfold State.afterLook
    split <;> rfl

theorem make (c : Catalog) : P (make c) := by
  show P (get >>= fun s => modify (fun t => (t.make c).2) >>= fun _ => Pure.pure s.catalogs.length)
  exact hP.seeing (fun _ _ => rfl) fun s =>
    hP.bind (hP.changing (fun _ _ => rfl) (fun _ => rfl) fun _ => rfl) fun _ => hP.pure _

theorem install_of_report {message : Option String} (hreport : P (report (alreadyNote message)))
    (new : CatalogName) (preferNew : Bool) : P (install new message preferNew) := by
  refine hP.bind hP.look fun previous => hP.bind (hP.changing ?_ ?_ ?_) fun _ => ?_
  · exact foldl_write_withSources _
  · exact fun s => (foldl_write_inputs _ s).1.settings
  · exact fun s => foldl_write_modeRead _ s
  · split
    · exact hP.bind hreport fun _ => hP.pure previous
    · exact hP.pure previous

theorem install (new : CatalogName) {message : Option String}
    (hplain : ∀ r ∈ alreadyNote message, r.IsPlain) (preferNew : Bool) :
    P (install new message preferNew) :=
  hP.install_of_report (report_of_plain hplain ▸ hP.say _) new preferNew

theorem target : P target := by
  refine hP.bind hP.look fun slot => ?_
  cases slot with
  | none =>
    refine hP.seeing (fun _ _ => rfl) fun s => hP.sayIf (hP.bind (hP.make _) fun name => ?_)
    exact hP.bind (hP.discard (hP.install name replacing_isPlain true)) fun _ => hP.pure name
  | some name => exact hP.seeing (fun _ _ => rfl) fun s => hP.sayIf (hP.pure name)

theorem resetTo (name : CatalogName) (items : Catalog.Handover) : P (resetTo name items) :=
  hP.bind (hP.ofExcept _) fun _ => hP.changing (fun _ _ => rfl) (fun _ => rfl) fun _ => rfl

theorem addToInstalled (item : Item) : P (addToInstalled item) := by
  refine hP.bind hP.look fun slot => ?_
  cases slot with
  | none => exact hP.throw _
  | some name =>
    refine hP.seeing (fun _ _ => rfl) fun s => ?_
    obtain ⟨r, c⟩ := (s.catalog name).addItem item false
    exact hP.bind (hP.changing (fun _ _ => rfl) (fun _ => rfl) fun _ => rfl) fun _ =>
      hP.discard (hP.ofExcept r)

section Inner

variable {inner : Inner} (hpopulate : P inner.populate) (hask : P inner.ask)
include hpopulate hask

theorem act (place : Nat) (c : Callback) : P (act inner place c) := by
  induction c with
  | quiet => exact hP.pure ()
  | fails e => exact hP.throw e
  | populates n => exact hpopulate
  | asks n =>
    exact hP.bind hask fun name => hP.changing (fun _ _ => rfl) (fun _ => rfl) fun _ => rfl
  | clears n => exact hP.changing (fun _ _ => rfl) (fun _ => rfl) fun _ => rfl
  | adds item n => exact hP.addToInstalled item
  | registers other n => exact hP.changing (fun _ _ => rfl) (fun _ => rfl) fun _ => rfl
  | both c d ihc ihd => exact hP.bind ihc fun _ => ihd
  | recovers c d ihc ihd => exact hP.recover ihc ihd
  | turns n c d ihc ihd =>
    cases n with
    | zero => exact ihd
    | succ n => exact ihc

theorem tell (place : Nat) (c : Callback) : P (tell inner place c) :=
  hP.bind (hP.changing (fun _ _ => rfl) (fun _ => rfl) fun _ => rfl) fun _ =>
    hP.bind (hP.changing (fun _ _ => rfl) (fun _ => rfl) fun _ => rfl) fun _ =>
      hP.act hpopulate hask place c.turn.1

theorem tellFrom (count place : Nat) : P (tellFrom inner count place) := by
  induction count generalizing place with
  | zero => exact hP.pure ()
  | succ count ih =>
    refine hP.seeing (fun _ _ => rfl) fun s => ?_
    cases s.callbacks[place]? with
    | none => exact hP.pure ()
    | some c => exact hP.bind (hP.tell hpopulate hask place c) fun _ => ih (place + 1)

theorem tellAll : P (tellAll inner) :=
  hP.seeing (fun _ _ => rfl) fun _ => hP.tellFrom hpopulate hask _ 0

theorem afterMode (name : CatalogName) (needsInitial : Bool) (items : Option Catalog.Handover) :
    P (afterMode inner name needsInitial items) := by
  have hrest : P (do Functor.discard (populateAdditions name); Population.tellAll inner) :=
    hP.bind (hP.discard (hP.additions name)) fun _ => hP.tellAll hpopulate hask
  have hload : P (Population.afterMode inner name needsInitial none) := by
    cases needsInitial with
    | false => exact hrest
    | true => exact hP.bind (hP.discard (hP.initial name)) fun _ => hrest
  cases items with
  | none => exact hload
  | some l =>
    rw [afterMode_some]
    exact hP.bind (hP.resetTo name l) fun _ => hload

theorem stages (name : CatalogName) (needsInitial : Bool) (items : Option Catalog.Handover) :
    P (stages inner name needsInitial items) := by
  rw [stages_eq]
  exact hP.bind hP.mode fun _ => hP.afterMode hpopulate hask name needsInitial items

theorem populateCatalog (needsInitial : Bool) (items : Option Catalog.Handover) :
    P (populateCatalog inner needsInitial items) :=
  hP.counted (hP.bind hP.target fun name =>
    hP.bind (hP.stages hpopulate hask name needsInitial items) fun _ => hP.pure name)

theorem bestEffort : P (bestEffort inner) := by
  refine hP.bind hP.look fun slot => ?_
  cases slot with
  | some name => exact hP.pure _
  | none =>
    refine hP.bind (hP.make _) fun name =>
      hP.bind (hP.install name reverting_isPlain false) fun previous => ?_
    split_ifs
    · exact hP.bind (hP.counted (hP.stages hpopulate hask name true none)) fun _ => hP.look
    · exact hP.look

theorem getCatalog : P (getCatalog inner) := by
  refine hP.bind hP.look fun slot => ?_
  cases slot with
  | some name => exact hP.pure _
  | none =>
    refine hP.seeing (fun _ _ => rfl) fun s => ?_
    split_ifs
    · exact hP.bestEffort hpopulate hask
    · exact hP.throw unavailable

end Inner

/-- **Nested passes**, at any depth. -/
theorem passes (depth : Nat) : P (passes depth).populate ∧ P (passes depth).ask := by
  induction depth with
  | zero => exact ⟨hP.throw tooDeep, hP.throw tooDeep⟩
  | succ depth ih =>
    exact ⟨hP.discard (hP.populateCatalog ih.1 ih.2 true none), hP.getCatalog ih.1 ih.2⟩

theorem nested {α : Type} {p : Inner → Step α}
    (hp : ∀ inner, P inner.populate → P inner.ask → P (p inner)) : P (nested p) :=
  hP.seeing (fun _ _ => rfl) fun _ => hp _ (hP.passes _).1 (hP.passes _).2

end Composes

/-! ### Isolated steps -/

/-- A step that, sealed, is blind and leaves the state sealed. -/
structure Isolated {α : Type} (p : Step α) : Prop where
  keeps : Keeps Sealed p
  blind : Blind Sealed p

namespace Isolated

variable {α β : Type} {p : Step α} {f : α → Step β}

theorem pure (a : α) : Isolated (pure a : Step α) := ⟨Keeps.pure a, Blind.pure a⟩

theorem throw (e : Fault) : Isolated (throw e : Step α) := ⟨Keeps.throw e, Blind.throw e⟩

theorem modify {g : State → State} (hkeep : ∀ s, Sealed s → Sealed (g s))
    (hblind : ∀ s x, g (s.withSources x) = (g s).withSources x) :
    Isolated (modify g : Step PUnit) :=
  ⟨Keeps.modify hkeep, Blind.modify hblind⟩

theorem bind (hp : Isolated p) (hf : ∀ a, Isolated (f a)) : Isolated (p >>= f) :=
  ⟨hp.keeps.bind fun a => (hf a).keeps,
    hp.blind.bind (fun s _ hs _ => hp.keeps s hs) fun a => (hf a).blind⟩

theorem get_bind {f : State → Step β} (hread : ∀ s x, f (s.withSources x) = f s)
    (hf : ∀ s, Isolated (f s)) : Isolated (get >>= f) :=
  ⟨Keeps.get_bind fun s hs => (hf s).keeps s hs, Blind.get_bind hread fun s => (hf s).blind⟩

end Isolated

theorem sealed_installs : Installs Sealed where
  say _ hs := hs
  look {s} hs := by
    rw [Sealed, (afterLook_inputs s).1.settings]
    exact hs
  write _ hs := hs
  make hs := hs
  count hs := hs

theorem install_isolated (new : CatalogName) (message : Option String) (preferNew : Bool) :
    Isolated (install new message preferNew) :=
  ⟨install_keeps sealed_installs new message preferNew,
    (install_blind new message preferNew).mono fun _ _ => trivial⟩

theorem applyLoadMode_isolated : Isolated applyLoadMode :=
  ⟨applyLoadMode_sealed, applyLoadMode_blind.mono fun _ _ => trivial⟩

theorem populateInitial_isolated (name : CatalogName) : Isolated (populateInitial name) where
  keeps s hs := by
    rw [populateInitial_sealed name hs]
    exact hs
  blind s x hs _ := by
    have hx : Sealed (s.withSources x) := hs
    rw [populateInitial_sealed name hs, populateInitial_sealed name hx]
    rfl

theorem populateAdditions_isolated (name : CatalogName) : Isolated (populateAdditions name) where
  keeps s hs := by
    rw [populateAdditions_sealed name hs]
    split_ifs <;> exact hs
  blind s x hs _ := by
    have hx : Sealed (s.withSources x) := hs
    rw [populateAdditions_sealed name hs, populateAdditions_sealed name hx,
      show (s.withSources x).additionsUri? = s.additionsUri? from rfl,
      show (s.withSources x).runs = s.runs from rfl]
    split_ifs <;> rfl

/-! ### Callbacks and passes -/

/-- The passes that callbacks can start are isolated. -/
structure IsolatedInner (inner : Inner) : Prop where
  populate : Isolated inner.populate
  ask : Isolated inner.ask

theorem isolated_composes : Composes Isolated where
  pure := Isolated.pure
  throw := Isolated.throw
  bind := Isolated.bind
  recover hp hq := ⟨hp.keeps.recover hq.keeps, hp.blind.recover hp.keeps hq.blind⟩
  counted hp := ⟨Keeps.counted (fun _ hs => hs) hp.keeps, hp.blind.counted⟩
  seeing := Isolated.get_bind
  changing hblind hsettings _ := Isolated.modify
    (fun s hs => by rw [Sealed, hsettings s]; exact hs) hblind
  mode := applyLoadMode_isolated
  initial := populateInitial_isolated
  additions := populateAdditions_isolated

section Passes

variable {inner : Inner} (hin : IsolatedInner inner)
include hin

theorem afterMode_isolated (name : CatalogName) (needsInitial : Bool)
    (items : Option Catalog.Handover) : Isolated (afterMode inner name needsInitial items) :=
  isolated_composes.afterMode hin.populate hin.ask name needsInitial items

section Sealing

variable {φ : State → Prop}
  (hmode : ∀ s a, φ s → (applyLoadMode s).1 = .ok a → Sealed (applyLoadMode s).2)
include hmode

/-- Passes are blind from where the load mode leaves the state sealed. -/
theorem stages_blind (name : CatalogName) (needsInitial : Bool) (items : Option Catalog.Handover) :
    Blind φ (stages inner name needsInitial items) := by
  rw [stages_eq]
  exact (applyLoadMode_blind.mono fun _ _ => trivial).bind hmode fun _ =>
    (afterMode_isolated hin name needsInitial items).blind

variable (hφ : Installs φ)
include hφ

theorem populateCatalog_blind (needsInitial : Bool) (items : Option Catalog.Handover) :
    Blind φ (populateCatalog inner needsInitial items) := by
  refine Blind.counted ((target_blind.mono fun _ _ => trivial).bind
    (fun s _ hs _ => target_keeps hφ.places s hs) fun name => ?_)
  exact (stages_blind hin hmode name needsInitial items).bind_any fun _ => Blind.pure name

theorem bestEffort_blind : Blind φ (bestEffort inner) := by
  refine look_blind.bind (fun s _ hs _ => look_keeps hφ s hs) fun slot => ?_
  cases slot with
  | some name => exact Blind.pure _
  | none =>
    refine (make_blind _).bind (fun s _ hs _ => hφ.make hs) fun name => ?_
    refine ((install_blind name _ false).mono fun _ _ => trivial).bind
      (fun s _ hs _ => install_keeps hφ name _ false s hs) fun previous => ?_
    split_ifs
    · exact (Blind.counted (stages_blind hin hmode name true none)).bind_any fun _ => look_blind
    · exact look_blind

theorem getCatalog_blind : Blind φ (getCatalog inner) := by
  refine look_blind.bind (fun s _ hs _ => look_keeps hφ s hs) fun slot => ?_
  cases slot with
  | some name => exact Blind.pure _
  | none =>
    refine Blind.get_bind (fun _ _ => rfl) fun s => ?_
    split_ifs
    · exact bestEffort_blind hin hmode hφ
    · exact Blind.throw unavailable

end Sealing

end Passes

/-- **Nested passes** are isolated, at any depth. -/
theorem passes_isolated (depth : Nat) : IsolatedInner (passes depth) :=
  ⟨(isolated_composes.passes depth).1, (isolated_composes.passes depth).2⟩

theorem nested_blind {α : Type} {φ : State → Prop} {p : Inner → Step α}
    (hp : ∀ depth, Blind φ (p (passes depth))) : Blind φ (nested p) :=
  Blind.get_bind (fun _ _ => rfl) fun s => hp (totalWeight s.callbacks)

end ItemCatalog.Population
