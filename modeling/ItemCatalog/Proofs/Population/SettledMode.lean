import ItemCatalog.Proofs.Config.Lookup
import ItemCatalog.Proofs.Population.OneShot
import ItemCatalog.Proofs.Population.Reading
import ItemCatalog.Proofs.Population.Sources

/-! # Settled modes: passes after the load mode was read

Once the load mode was read, it makes no difference which one the configuration gives, or whether it
gives one at all. A step is `Heedless` if it does the same with two configurations that agree apart
from the load mode; every stage of a pass is, and so are passes and whole sessions in one
context. -/

namespace ItemCatalog.Population

open Step

/-! ### Configurations that agree apart from the load mode -/

/-- Two configurations agree on the settings that passes read, apart from the load mode. -/
structure AgreeApart (c d : Config) : Prop where
  url : d.get? Source.urlSetting = c.get? Source.urlSetting
  base : d.get? Source.baseSetting = c.get? Source.baseSetting
  timeout : d.get? Resource.Loader.timeoutSetting = c.get? Resource.Loader.timeoutSetting

section Agree

variable {c d : Config} (h : AgreeApart c d)
include h

theorem AgreeApart.resolve (t : Settings) (around : Surroundings) (providers : List Provider)
    (firstPass : Bool) : Source.resolve t d around providers firstPass =
      Source.resolve t c around providers firstPass := by
  have hurl : d.get Source.urlSetting = c.get Source.urlSetting := by
    rw [Config.get, h.url, Config.get]
  have hbase : d.get Source.baseSetting = c.get Source.baseSetting := by
    rw [Config.get, h.base, Config.get]
  simp only [Source.resolve, Source.found, Source.ofConfig?, Source.baseDirectory, Source.baseText,
    hurl, hbase]

theorem AgreeApart.loader :
    Resource.Loader.ofConfig d = Resource.Loader.ofConfig c := by
  simp only [Resource.Loader.ofConfig, Config.get, h.timeout]

end Agree

/-- The configuration with everything that it gives but the load mode. -/
def LoadMode.without (c : Config) : Config :=
  match (c.settings.get? "catalog").bind Value.asMap? with
  | some entries => c.assign "catalog" (.map (entries.filter fun e => e.1 != .text "load_mode"))
  | none => c

/-- A path of two keys leads through one mapping in the settings. -/
theorem get?_of_two_keys (c : Config) {path key sub : String}
    (hpath : Text.cut '.' path = [key, sub]) :
    c.get? path = ((c.settings.get? key).bind Value.asMap?).bind (·.get? sub) := by
  have hself : Config.follow [] = (some : Value → Option Value) := rfl
  rw [Config.get?, hpath, Config.follow_map, Option.bind_assoc]
  refine congrArg _ (funext fun v => ?_)
  rw [Config.follow_cons, hself, Option.bind_fun_some]

/-- What is left in the mapping without the load mode. -/
theorem get?_kept (entries : Entries) (sub : String) :
    Entries.get? (entries.filter fun e => e.1 != .text "load_mode") sub =
      if sub = "load_mode" then none else entries.get? sub := by
  split_ifs with h
  · exact Entries.get?_filter_text_of_not (p := fun k => k != .text "load_mode") (by rw [h]; rfl)
  · refine Entries.get?_filter_text (p := fun k => k != .text "load_mode") ?_
    rw [bne_iff_ne]
    exact fun hsame => h (Scalar.text.inj hsame)

theorem get?_without (c : Config) {path key sub : String}
    (hpath : Text.cut '.' path = [key, sub]) : (LoadMode.without c).get? path =
      if key = "catalog" ∧ sub = "load_mode" then none else c.get? path := by
  rw [LoadMode.without, get?_of_two_keys _ hpath, get?_of_two_keys c hpath]
  cases hcatalog : (c.settings.get? "catalog").bind Value.asMap? with
  | none =>
    split_ifs with h
    · rw [h.1, hcatalog, Option.bind_none]
    · rfl
  | some entries =>
    show ((Entries.get? (c.settings.put _ _) key).bind Value.asMap?).bind _ = _
    rw [Entries.get?_put]
    by_cases hkey : key = "catalog"
    · subst hkey
      rw [hcatalog, if_pos rfl]
      refine (get?_kept entries sub).trans ?_
      simp only [true_and, Option.bind_some]
    · rw [if_neg (Ne.symm hkey), if_neg fun h => hkey h.1]

/-- **Without the load mode** a configuration agrees with what it was, and gives no load mode. -/
theorem without_agrees (c : Config) :
    AgreeApart c (LoadMode.without c) ∧ (LoadMode.without c).get LoadMode.setting = .null := by
  have hmode : Text.cut '.' LoadMode.setting = ["catalog", "load_mode"] := by decide +kernel
  have hurl : Text.cut '.' Source.urlSetting = ["catalog", "url"] := by decide +kernel
  have hbase : Text.cut '.' Source.baseSetting = ["runtime", "base_dir"] := by decide +kernel
  have htimeout : Text.cut '.' Resource.Loader.timeoutSetting = ["resources", "http_timeout"] := by
    decide +kernel
  refine ⟨⟨?_, ?_, ?_⟩, ?_⟩
  · rw [get?_without c hurl, if_neg (by decide)]
  · rw [get?_without c hbase, if_neg (by decide)]
  · rw [get?_without c htimeout, if_neg (by decide)]
  · rw [Config.get, get?_without c hmode, if_pos ⟨rfl, rfl⟩, Option.getD_none]

/-! ### Heedless steps -/

/-- The load mode was read, and the configuration is this one. -/
structure HasRead (c : Config) (s : State) : Prop where
  read : s.modeRead.isSet = true
  config : s.context.config = c

/-- A step that does the same with another configuration once the mode was read. -/
structure Heedless (c d : Config) {α : Type} (p : Step α) : Prop where
  keeps : Keeps (HasRead c) p
  same : ∀ s, HasRead c s → p (s.withConfig d) = ((p s).1, (p s).2.withConfig d)

namespace Heedless

variable {c d : Config} {α β : Type} {p : Step α} {f : α → Step β}

theorem pure (a : α) : Heedless c d (pure a : Step α) := ⟨Keeps.pure a, fun _ _ => rfl⟩

theorem throw (e : Fault) : Heedless c d (throw e : Step α) := ⟨Keeps.throw e, fun _ _ => rfl⟩

theorem ofExcept (r : Except Fault α) : Heedless c d (ofExcept r : Step α) := by
  cases r with
  | error e => exact throw e
  | ok a => exact pure a

theorem bind (hp : Heedless c d p) (hf : ∀ a, Heedless c d (f a)) : Heedless c d (p >>= f) where
  keeps := hp.keeps.bind fun a => (hf a).keeps
  same s hs := by
    have hrun := hp.same s hs
    cases hr : (p s).1 with
    | error e =>
      rw [hr] at hrun
      rw [bind_of_error hr, bind_of_error (congrArg Prod.fst hrun), hrun]
    | ok a =>
      rw [hr] at hrun
      rw [bind_of_ok hr, bind_of_ok (congrArg Prod.fst hrun), hrun]
      exact (hf a).same _ (hp.keeps s hs)

theorem recover {p q : Step Unit} (hp : Heedless c d p) (hq : Heedless c d q) :
    Heedless c d (recover p q) where
  keeps := hp.keeps.recover hq.keeps
  same s hs := by
    have hrun := hp.same s hs
    have hkept := hp.keeps s hs
    rcases h : p s with ⟨e | a, t⟩ <;> rw [h] at hrun hkept
    · cases he : e.isFatal with
      | true => rw [recover_of_fatal hrun he, recover_of_fatal h he]
      | false =>
        rw [recover_of_ordinary hrun he, recover_of_ordinary h he]
        exact hq.same t hkept
    · rw [recover_of_ok hrun, recover_of_ok h]

theorem counted (hp : Heedless c d p) : Heedless c d (counted p) where
  keeps := Keeps.counted (fun _ hs => ⟨hs.read, hs.config⟩) hp.keeps
  same s hs := by
    rw [counted_run, counted_run, hp.same s hs]
    rfl

/-- A look at the state that does not use the configuration. -/
theorem get_bind {f : State → Step β} (hread : ∀ s, HasRead c s → f (s.withConfig d) = f s)
    (hf : ∀ s, HasRead c s → Heedless c d (f s)) : Heedless c d (get >>= f) where
  keeps s hs := (hf s hs).keeps s hs
  same s hs := by
    show f (s.withConfig d) (s.withConfig d) = _
    rw [hread s hs]
    exact (hf s hs).same s hs

/-- A change of the state that the configuration has no part in. -/
theorem modify {g : State → State} (hread : ∀ s, (g s).modeRead = s.modeRead)
    (hconfig : ∀ s, (g s).context.config = s.context.config)
    (hsame : ∀ s, g (s.withConfig d) = (g s).withConfig d) :
    Heedless c d (modify g : Step PUnit) where
  keeps s hs := ⟨hread s ▸ hs.read, (hconfig s).trans hs.config⟩
  same s _ := by rw [modify_run, modify_run, hsame]

theorem say (log : List Log.Record) : Heedless c d (say log) :=
  modify (fun _ => rfl) (fun _ => rfl) fun _ => rfl

theorem report (log : List Log.Record) : Heedless c d (report log) :=
  ⟨fun _ hs => ⟨hs.read, hs.config⟩, fun _ _ => rfl⟩

theorem sayIf {b : Prop} [Decidable b] {log : List Log.Record} {f : Unit → Step β}
    (hf : Heedless c d (f ())) :
    Heedless c d (if b then Step.say log >>= f else f ()) := by
  split_ifs
  · exact (say log).bind fun _ => hf
  · exact hf

end Heedless

/-! ### Stages -/

section Stages

variable {c d : Config} (h : AgreeApart c d)
include h

theorem loaderOr_withConfig {s : State} (hs : HasRead c s) :
    (s.withConfig d).loaderOr = s.loaderOr := by
  have hloader : Resource.Loader.ofConfig (s.withConfig d).context.config =
      Resource.Loader.ofConfig s.context.config := by
    rw [hs.config]
    exact h.loader
  rw [State.loaderOr, State.loaderOr, hloader]
  rfl

theorem getLoader_heedless : Heedless c d getLoader where
  keeps s hs := by
    rw [getLoader_run]
    exact ⟨hs.read, hs.config⟩
  same s hs := by
    rw [getLoader_run, getLoader_run, State.withLoader, loaderOr_withConfig h hs]
    rfl

theorem resolveSource_heedless : Heedless c d resolveSource where
  keeps s hs := by
    rw [resolveSource_run]
    exact ⟨hs.read, hs.config⟩
  same s hs := by
    have hsearch : (s.withConfig d).search = s.search := by
      obtain ⟨-, rfl⟩ := hs
      exact h.resolve s.settings s.around s.providers (!s.runs.hasRun)
    rw [resolveSource_run, resolveSource_run, State.searched, hsearch]
    exact Prod.ext (congrArg Resolution.result hsearch) rfl

omit h in
theorem fetch_heedless (l : Resource.Loader) (uri : String) : Heedless c d (fetch l uri) :=
  ⟨fun _ hs => ⟨hs.read, hs.config⟩, fun _ _ => rfl⟩

omit h in
theorem loadAddress_heedless (name : CatalogName) (uri : String) (mode : PopulateMode)
    (l : Resource.Loader) : Heedless c d (loadAddress name uri mode l) := by
  refine (Heedless.say _).bind fun _ => (fetch_heedless l uri).bind fun content => ?_
  refine Heedless.get_bind (fun _ _ => rfl) fun s _ => ?_
  refine Heedless.bind (Heedless.modify ?_ ?_ ?_) fun _ =>
    (Heedless.report _).bind fun _ => Heedless.ofExcept _ <;>
    exact fun _ => rfl

/-- **The initial load.** -/
theorem populateInitial_heedless (name : CatalogName) : Heedless c d (populateInitial name) := by
  refine (resolveSource_heedless h).bind fun source => ?_
  cases source with
  | some source =>
    refine Heedless.bind ?_ fun r => Heedless.pure (some r)
    exact (Heedless.report _).bind fun _ => (getLoader_heedless h).bind fun l =>
      loadAddress_heedless name source.uri source.mode l
  | none =>
    refine Heedless.get_bind (fun _ _ => rfl) fun s _ => ?_
    exact Heedless.sayIf (Heedless.pure none)

theorem addFrom_heedless (name : CatalogName) (uri : String) :
    Heedless c d (addFrom name uri) := by
  have hasRun_heedless : Heedless c d hasRun := ⟨fun _ hs => hs, fun _ _ => rfl⟩
  refine Heedless.get_bind (fun _ _ => rfl) fun s _ => hasRun_heedless.bind fun b => ?_
  refine Heedless.sayIf ((getLoader_heedless h).bind fun l => (fetch_heedless l uri).bind
    fun content => (Heedless.ofExcept content).bind fun text => ?_)
  refine Heedless.get_bind (fun _ _ => rfl) fun t _ => ?_
  refine Heedless.bind (Heedless.modify ?_ ?_ ?_) fun _ => (Heedless.ofExcept _).bind fun items =>
    hasRun_heedless.bind fun _ => (Heedless.say _).bind fun _ => Heedless.pure items
  all_goals exact fun _ => rfl

/-- **The additions.** -/
theorem populateAdditions_heedless (name : CatalogName) :
    Heedless c d (populateAdditions name) := by
  refine Heedless.get_bind (fun _ _ => rfl) fun s _ => ?_
  cases huri : s.additionsUri? with
  | none =>
    rw [State.additionsUri?] at huri
    simp only [huri]
    exact Heedless.pure none
  | some uri =>
    rw [State.additionsUri?] at huri
    simp only [huri]
    by_cases hlocal : s.settings.disallowLocal = true
    · rw [if_pos hlocal]
      exact Heedless.sayIf (Heedless.pure none)
    · rw [if_neg hlocal]
      exact (addFrom_heedless h name uri).bind fun items => Heedless.pure (some items)

/-! ### Passes -/

theorem heedless_composes : Composes (Heedless c d) where
  pure := Heedless.pure
  throw := Heedless.throw
  bind := Heedless.bind
  recover := Heedless.recover
  counted := Heedless.counted
  seeing hread hf := Heedless.get_bind (fun s _ => hread s { s.sources with config := d })
    fun s _ => hf s
  changing {g} hsame _ hread := by
    have hsources : ∀ s, (g s).sources = s.sources := fun s => by
      have hown := hsame s s.sources
      rw [State.withSources_sources] at hown
      rw [hown, State.sources_withSources]
    refine Heedless.modify hread (fun s => congrArg Sources.config (hsources s)) fun s => ?_
    calc g (s.withConfig d) = (g s).withSources { s.sources with config := d } :=
        hsame s { s.sources with config := d }
      _ = (g s).withSources { (g s).sources with config := d } := by rw [hsources s]
  mode := ⟨fun s hs => by rw [applyLoadMode_later hs.read]; exact hs, fun s hs => by
    have hread : (s.withConfig d).modeRead.isSet = true := hs.read
    rw [applyLoadMode_later hs.read, applyLoadMode_later hread]⟩
  initial := populateInitial_heedless h
  additions := populateAdditions_heedless h

end Stages

/-! ### Sessions -/

/-- A command, from a settled state, does the same with another configuration. -/
structure Command.Heedless (c d : Config) (k : Command) (s : State) : Prop where
  settled : HasRead c (k.run s).2
  same : k.run (s.withConfig d) = ((k.run s).1, (k.run s).2.withConfig d)

section Sessions

variable {c d : Config} (h : AgreeApart c d)

theorem command_of_heedless {α : Type} {k : Command} {f : Except Fault α → Answer} {p : Step α}
    (hrun : k.run = answer f p) (hp : Heedless c d p) {s : State} (hs : HasRead c s) :
    k.Heedless c d s := by
  refine ⟨?_, ?_⟩
  · rw [hrun]
    exact hp.keeps s hs
  · rw [hrun, answer, answer, hp.same s hs]

include h

/-- **Every command** in the same context. -/
theorem command_heedless {k : Command} (hone : ∀ context, k ≠ .enter context) {s : State}
    (hs : HasRead c s) : k.Heedless c d s := by
  have hP := heedless_composes h
  cases k with
  | populate needsInitial items =>
    exact command_of_heedless rfl (hP.nested fun _ hpopulate hask =>
      hP.populateCatalog hpopulate hask needsInitial items) hs
  | bestEffort => exact command_of_heedless rfl (hP.nested fun _ => hP.bestEffort) hs
  | getCatalog => exact command_of_heedless rfl (hP.nested fun _ => hP.getCatalog) hs
  | applyLoadMode => exact command_of_heedless rfl hP.mode hs
  | populateInitial name => exact command_of_heedless rfl (hP.initial name) hs
  | populateAdditions name => exact command_of_heedless rfl (hP.additions name) hs
  | tell => exact command_of_heedless rfl (hP.nested fun _ => hP.tellAll) hs
  | install new message preferNew =>
    exact command_of_heedless rfl (hP.install_of_report (Heedless.report _) new preferNew) hs
  | enter context => exact absurd rfl (hone context)

/-- **A session** in one context, after the load mode was read: it is the same with every other
configuration that agrees apart from the load mode. -/
theorem session_heedless {commands : List Command} (hone : ∀ context, .enter context ∉ commands)
    {s : State} (hs : HasRead c s) : HasRead c (session commands s).2 ∧
      session commands (s.withConfig d) =
        ((session commands s).1, (session commands s).2.withConfig d) := by
  induction commands generalizing s with
  | nil => exact ⟨hs, rfl⟩
  | cons k rest ih =>
    obtain ⟨hk, hrest⟩ : (∀ context, k ≠ .enter context) ∧ ∀ context, .enter context ∉ rest :=
      ⟨fun context hk => hone context (hk ▸ List.mem_cons_self),
        fun context hmem => hone context (List.mem_cons_of_mem _ hmem)⟩
    have hfirst := command_heedless h hk hs
    obtain ⟨hsettled, hsame⟩ := ih hrest hfirst.settled
    refine ⟨hsettled, ?_⟩
    rw [session, hfirst.same, hsame, session]

end Sessions

end ItemCatalog.Population
