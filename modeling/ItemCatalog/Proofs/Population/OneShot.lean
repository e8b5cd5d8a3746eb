import ItemCatalog.Proofs.Population.Moments
import Mathlib.Data.List.Pairwise

/-! # One shot: the load mode of the first caller

The load mode is read once. Up to the first call of the adapter the settings are the ones that the
initialization was made with, and no source is looked for; this call reads the mode of the
configuration it is made with; and from then on the settings are those that this mode makes of the
first ones, whatever later calls find in their configurations, and whatever fails (`OneShot`).

* `command_first`: what a command does that may be the first to read the mode;
* `command_later`: what a command does afterwards;
* `session_one_shot`: whole sessions, by induction on the commands. -/

namespace ItemCatalog.Population

open Step

/-! ### Modes -/

/-- The mode that a configuration names, if it names one. -/
def LoadMode.named? (c : Config) : Option LoadMode :=
  match c.get setting with
  | .null => none
  | v => (coerce v).toOption

/-- The settings that a configuration makes of others. -/
def LoadMode.settle (c : Config) (t : Settings) : Settings :=
  match named? c with
  | some .catalogUrl => { t with reset := true }
  | some .persistedState => { t with disallowLocal := true }
  | _ => t

/-- What is said when the mode of a configuration is read. -/
def LoadMode.notes (c : Config) : List Log.Record :=
  ((named? c).map warning).toList

/-- The settings go on from others: addresses and force stay, and what was asked for is not taken
back. -/
structure Settings.Grows (a b : Settings) : Prop where
  initialUri : b.initialUri = a.initialUri
  additionsUri : b.additionsUri = a.additionsUri
  force : b.force = a.force
  reset : a.reset = true → b.reset = true
  disallowLocal : a.disallowLocal = true → b.disallowLocal = true

theorem Settings.Grows.refl (a : Settings) : a.Grows a := ⟨rfl, rfl, rfl, id, id⟩

theorem settle_grows (c : Config) (t : Settings) : t.Grows (LoadMode.settle c t) := by
  unfold LoadMode.settle
  split
  · exact ⟨rfl, rfl, rfl, fun _ => rfl, id⟩
  · exact ⟨rfl, rfl, rfl, id, fun _ => rfl⟩
  · exact .refl t

/-- A mode is read as the one that is named. -/
theorem readMode_eq (c : Config) (t : Settings) :
    ((LoadMode.read c t).1.toOption.bind id).getD t = LoadMode.settle c t ∧
      (LoadMode.read c t).2 = LoadMode.notes c := by
  by_cases hnull : c.get LoadMode.setting = .null
  · have hnamed : LoadMode.named? c = none := by
      rw [LoadMode.named?, hnull]
    simp [LoadMode.read, LoadMode.settle, LoadMode.notes, hnull, hnamed, Except.toOption]
  · have hnamed : LoadMode.named? c = (LoadMode.coerce (c.get LoadMode.setting)).toOption := by
      unfold LoadMode.named?
      split
      · next h => exact absurd h hnull
      · rfl
    rw [readMode_of_ne_null hnull, LoadMode.settle, LoadMode.notes, hnamed]
    rcases LoadMode.coerce (c.get LoadMode.setting) with e | m
    · exact ⟨rfl, rfl⟩
    · cases m <;> exact ⟨rfl, rfl⟩

/-! ### The adapter -/

/-- Since a state, nothing was done about the load mode. -/
structure State.Quiet (s t : State) : Prop where
  settings : t.settings = s.settings
  modeRead : t.modeRead = s.modeRead
  log : ∃ said, t.trace.log = s.trace.log ++ said ∧ NoMode said

/-- After the first call of the adapter the flag is set, the settings are adjusted, and a mode is
warned of if there is one. -/
theorem applyLoadMode_first {s : State} (hunread : s.modeRead.isSet = false) :
    (applyLoadMode s).2.modeRead.isSet = true ∧
      (applyLoadMode s).2.settings = LoadMode.settle s.context.config s.settings ∧
      (applyLoadMode s).2.trace.log = s.trace.log ++ LoadMode.notes s.context.config := by
  have happly : LoadMode.apply s.modeRead s.context.config s.settings =
      (LoadMode.read s.context.config s.settings, ⟨true⟩) := by
    rw [LoadMode.apply, OneShotFlag.compareAndSet, if_pos hunread]
  obtain ⟨hsettings, hnotes⟩ := readMode_eq s.context.config s.settings
  rw [applyLoadMode_run]
  refine ⟨?_, ?_, ?_⟩
  · show (LoadMode.apply s.modeRead s.context.config s.settings).2.isSet = true
    rw [happly]
  · show s.modeSettings = _
    rw [State.modeSettings, State.loadMode, happly, hsettings]
  · show s.trace.log ++ (LoadMode.apply s.modeRead s.context.config s.settings).1.2 = _
    rw [happly, hnotes]

/-- A later call of the adapter does nothing, whatever the configuration. -/
theorem applyLoadMode_later {s : State} (hread : s.modeRead.isSet = true) :
    applyLoadMode s = (.ok (), s) := by
  have happly : LoadMode.apply s.modeRead s.context.config s.settings =
      ((.ok none, []), s.modeRead) := by
    rw [LoadMode.apply, OneShotFlag.compareAndSet, hread]
    rfl
  rw [applyLoadMode_run, State.loadMode, State.modeSettings, State.modeSettled, State.loadMode,
    happly, State.say, List.append_nil]
  rfl

namespace State.Quiet

variable {s t u : State}

theorem refl (s : State) : s.Quiet s := ⟨rfl, rfl, [], (List.append_nil _).symm, nofun⟩

theorem trans (h : s.Quiet t) (h' : t.Quiet u) : s.Quiet u := by
  obtain ⟨said, hsaid, hquiet⟩ := h.log
  obtain ⟨said', hsaid', hquiet'⟩ := h'.log
  refine ⟨h'.settings.trans h.settings, h'.modeRead.trans h.modeRead, said ++ said', ?_,
    List.forall_mem_append.mpr ⟨hquiet, hquiet'⟩⟩
  rw [hsaid', hsaid, List.append_assoc]

/-- A state that differs in nothing that has to do with the load mode. -/
theorem of_eq (h : s.Quiet t) (hsettings : u.settings = t.settings)
    (hmode : u.modeRead = t.modeRead) (hlog : u.trace.log = t.trace.log) : s.Quiet u :=
  ⟨hsettings.trans h.settings, hmode.trans h.modeRead, hlog ▸ h.log⟩

theorem say (h : s.Quiet t) {log : List Log.Record} (hlog : NoMode log) : s.Quiet (t.say log) :=
  h.trans ⟨rfl, rfl, log, rfl, hlog⟩

theorem look (h : s.Quiet t) : s.Quiet t.afterLook := by
  unfold State.afterLook
  cases t.context.rival with
  | none => exact h
  | some r => exact h.of_eq rfl rfl rfl

end State.Quiet

section Quiet

variable (s : State)

theorem quiet_places : Places s.Quiet where
  say _ hlog ht := ht.say hlog
  look ht := ht.look
  place {t} message preferNew hlog ht := by
    have hreport : Keeps s.Quiet (report (alreadyNote message)) :=
      Keeps.report fun _ htaken u hu => hu.say (hlog.of_prefix htaken)
    exact install_keeps_of hreport (fun u hu => hu.look)
      (fun name _ u hu => hu.of_eq rfl rfl rfl) preferNew _ (ht.of_eq rfl rfl rfl)
  count ht := ht.of_eq rfl rfl rfl

theorem quiet_serves : Serves s.Quiet where
  say _ hlog ht := ht.say hlog.noMode
  ask _ ht := ht.of_eq rfl rfl rfl
  loader _ ht := ht.of_eq rfl rfl rfl
  fetch _ _ ht := ht.of_eq rfl rfl rfl
  setCatalog _ _ ht := ht.of_eq rfl rfl rfl

/-- **Once the mode was read,** whatever happens during passes does nothing about it. -/
theorem quiet_lasts (hread : s.modeRead.isSet = true) :
    Lasts (fun _ => True) s.Quiet (fun _ => True) where
  serves := quiet_serves s
  look _ ht := ht.look
  count _ ht := ht.of_eq rfl rfl rfl
  mode t ht := by
    rw [applyLoadMode_later (ht.modeRead ▸ hread)]
    exact ht
  told _ _ ht := ht.of_eq rfl rfl rfl
  got _ _ ht := ht.look.of_eq rfl rfl rfl
  callbacks _ _ ht := ht.of_eq rfl rfl rfl
  clear _ _ _ ht := ht.of_eq rfl rfl rfl
  retarget _ _ := (quiet_places s).enters.target
  early _ _ := (quiet_places s).enters.early _
  ofTarget _ _ := trivial
  ofEarly _ _ _ := trivial

end Quiet

/-! ### Commands -/

/-- What a command does once the mode was read: nothing about it. -/
theorem command_later {c : Command}
    (hc : c.isPass = true ∨ c = .applyLoadMode ∨ ∃ context, c = .enter context) {s t : State}
    (hread : s.modeRead.isSet = true) (ht : s.Quiet t) :
    s.Quiet (c.run t).2 ∧ ∀ m ∈ c.moments t, s.Quiet m.state := by
  have henters : Enters s.Quiet := (quiet_places s).enters
  have hI := quiet_lasts s hread
  rcases hc with hc | rfl | ⟨context, rfl⟩
  · obtain ⟨ms, hmoments, hruns⟩ := c.runs hc t
    rw [hmoments]
    cases hruns with
    | idle hkeeps =>
      have hend := hkeeps _ henters.look (fun u _ _ => henters.early u) ht
      exact ⟨hend, List.forall_mem_singleton.mpr hend⟩
    | pass name u hbegins hcount hkeeps =>
      have hu := hbegins.keeps henters ht
      obtain ⟨hend, hrest⟩ := hkeeps _ _ _ hI trivial (hI.mode u hu) fun _ _ _ _ _ _ => trivial
      refine ⟨hend, List.forall_mem_append.mpr ⟨List.forall_mem_cons.mpr ⟨hu, fun m hm =>
        (hrest m hm).state⟩, List.forall_mem_singleton.mpr hend⟩⟩
  · have hend : s.Quiet (applyLoadMode t).2 := hI.mode t ht
    exact ⟨hend, List.forall_mem_cons.mpr ⟨ht, List.forall_mem_singleton.mpr hend⟩⟩
  · have hend : s.Quiet { t with context } := ht.of_eq rfl rfl rfl
    exact ⟨hend, List.forall_mem_singleton.mpr hend⟩

/-- A moment before the mode is read: nothing was done about it, and no source is looked for. -/
structure Moment.Early (s : State) (m : Moment) : Prop where
  state : s.Quiet m.state
  notMode : m.event ≠ .mode
  notInitial : m.event ≠ .initial
  notAdditions : m.event ≠ .additions

/-- What a command does that may be the first to read the mode: nothing about it, or it reads the
mode at its first moment. -/
theorem command_first {c : Command}
    (hc : c.isPass = true ∨ c = .applyLoadMode ∨ ∃ context, c = .enter context) {s t : State}
    (hunread : s.modeRead.isSet = false) (ht : s.Quiet t) :
    (s.Quiet (c.run t).2 ∧ ∀ m ∈ c.moments t, m.Early s) ∨
      ∃ first rest, c.moments t = first :: rest ∧ first.event = .mode ∧ s.Quiet first.state ∧
        (applyLoadMode first.state).2.Quiet (c.run t).2 ∧
        ∀ m ∈ rest, (applyLoadMode first.state).2.Quiet m.state := by
  have henters : Enters s.Quiet := (quiet_places s).enters
  have hidle : ∀ {v}, s.Quiet v → ∀ m ∈ [(⟨none, .ends, v⟩ : Moment)], m.Early s := fun hv =>
    List.forall_mem_singleton.mpr ⟨hv, nofun, nofun, nofun⟩
  rcases hc with hc | rfl | ⟨context, rfl⟩
  · obtain ⟨ms, hmoments, hruns⟩ := c.runs hc t
    rw [hmoments]
    cases hruns with
    | idle hkeeps =>
      have hend := hkeeps _ henters.look (fun u _ _ => henters.early u) ht
      exact .inl ⟨hend, hidle hend⟩
    | pass name u hbegins hcount hkeeps =>
      have hu := hbegins.keeps henters ht
      have hread := (applyLoadMode_first (hu.modeRead ▸ hunread)).1
      obtain ⟨hend, hrest⟩ := hkeeps _ _ _ (quiet_lasts _ hread) trivial (.refl _)
        fun _ _ _ _ _ _ => trivial
      exact .inr ⟨_, _, rfl, rfl, hu, hend, List.forall_mem_append.mpr
        ⟨fun m hm => (hrest m hm).state, List.forall_mem_singleton.mpr hend⟩⟩
  · exact .inr ⟨_, _, rfl, rfl, ht, .refl _, List.forall_mem_singleton.mpr (.refl _)⟩
  · have hend : s.Quiet { t with context } := ht.of_eq rfl rfl rfl
    exact .inl ⟨hend, hidle hend⟩

/-! ### Sessions -/

/-- The state with another configuration. -/
def State.withConfig (s : State) (config : Config) : State :=
  { s with context := { s.context with config } }

/-- A moment after the mode of a configuration was read: the settings are those that it makes of the
first ones, it was warned of at most once, and no other configuration is read. -/
structure Moment.Late (s : State) (c : Config) (m : Moment) : Prop where
  settings : m.state.settings = LoadMode.settle c s.settings
  log : ∃ said later, m.state.trace.log = s.trace.log ++ said ++ LoadMode.notes c ++ later ∧
    NoMode said ∧ NoMode later
  deaf : ∀ config, applyLoadMode (m.state.withConfig config) = (.ok (), m.state.withConfig config)

/-- **One shot:** the mode is not read at all, or once, by the first call of the adapter. -/
def OneShot (s : State) (ms : List Moment) : Prop :=
  (∀ m ∈ ms, m.Early s) ∨
    ∃ before first after, ms = before ++ first :: after ∧ (∀ m ∈ before, m.Early s) ∧
      first.event = .mode ∧ s.Quiet first.state ∧
      ∀ m ∈ after, m.Late s first.state.context.config

/-- After the first call of the adapter, and nothing else about the mode, the mode was read. -/
theorem late_of_quiet {s t : State} (hunread : s.modeRead.isSet = false) (ht : s.Quiet t)
    {m : Moment} (hm : (applyLoadMode t).2.Quiet m.state) : m.Late s t.context.config := by
  obtain ⟨hread, hsettings, hlog⟩ := applyLoadMode_first (ht.modeRead ▸ hunread)
  obtain ⟨said, hsaid, hquiet⟩ := ht.log
  obtain ⟨later, hlater, hquiet'⟩ := hm.log
  refine ⟨?_, ⟨said, later, ?_, hquiet, hquiet'⟩, fun config => applyLoadMode_later ?_⟩
  · rw [hm.settings, hsettings, ht.settings]
  · rw [hlater, hlog, hsaid]
  · exact hm.modeRead ▸ hread

/-- Once the mode was read, a session does nothing about it. -/
theorem session_later (commands : List Command)
    (hcalls : ∀ c ∈ commands, c.isPass = true ∨ c = .applyLoadMode ∨ ∃ context, c = .enter context)
    {s t : State} (hread : s.modeRead.isSet = true) (ht : s.Quiet t) :
    ∀ m ∈ sessionMoments commands t, s.Quiet m.state := by
  induction commands generalizing t with
  | nil => exact List.forall_mem_nil _
  | cons c rest ih =>
    obtain ⟨hc, hrest⟩ := List.forall_mem_cons.mp hcalls
    obtain ⟨hend, hmoments⟩ := command_later hc hread ht
    exact List.forall_mem_append.mpr ⟨hmoments, ih hrest hend⟩

theorem session_reads_once (commands : List Command)
    (hcalls : ∀ c ∈ commands, c.isPass = true ∨ c = .applyLoadMode ∨ ∃ context, c = .enter context)
    {s t : State} (hunread : s.modeRead.isSet = false) (ht : s.Quiet t) :
    OneShot s (sessionMoments commands t) := by
  induction commands generalizing t with
  | nil => exact .inl (List.forall_mem_nil _)
  | cons c rest ih =>
    obtain ⟨hc, hrest⟩ := List.forall_mem_cons.mp hcalls
    rw [sessionMoments]
    rcases command_first hc hunread ht with ⟨hend, hearly⟩ | ⟨first, later, hms, hevent, hfirst,
      hend, hlater⟩
    · rcases ih hrest hend with hall | ⟨before, first, after, hms, hbefore, hfirst⟩
      · exact .inl (List.forall_mem_append.mpr ⟨hearly, hall⟩)
      · refine .inr ⟨c.moments t ++ before, first, after, ?_,
          List.forall_mem_append.mpr ⟨hearly, hbefore⟩, hfirst⟩
        rw [hms, List.append_assoc]
    · have hread := (applyLoadMode_first (hfirst.modeRead ▸ hunread)).1
      refine .inr ⟨[], first, later ++ sessionMoments rest (c.run t).2, ?_, List.forall_mem_nil _,
        hevent, hfirst, fun m hm => late_of_quiet hunread hfirst ?_⟩
      · rw [hms]
        rfl
      · rcases List.mem_append.mp hm with hm | hm
        · exact hlater m hm
        · exact session_later rest hrest hread hend m hm

namespace OneShot

variable {s : State} {ms : List Moment} (h : OneShot s ms)
include h

/-- The settings go on from moment to moment. -/
theorem grows : ms.Pairwise fun m n => m.state.settings.Grows n.state.settings := by
  have hsame : ∀ {t : Settings} {l : List Moment}, (∀ m ∈ l, m.state.settings = t) →
      l.Pairwise fun m n => m.state.settings.Grows n.state.settings := fun hl =>
    List.pairwise_of_forall_mem_list fun m hm n hn => by
      rw [hl m hm, hl n hn]
      exact .refl _
  rcases h with hearly | ⟨before, first, after, rfl, hbefore, -, hfirst, hafter⟩
  · exact hsame fun m hm => (hearly m hm).state.settings
  · have hstart : ∀ m ∈ before ++ [first], m.state.settings = s.settings :=
      List.forall_mem_append.mpr ⟨fun m hm => (hbefore m hm).state.settings,
        List.forall_mem_singleton.mpr hfirst.settings⟩
    rw [List.append_cons]
    refine List.pairwise_append.mpr ⟨hsame hstart, hsame fun m hm => (hafter m hm).settings,
      fun m hm n hn => ?_⟩
    rw [hstart m hm, (hafter n hn).settings]
    exact settle_grows _ _

/-- The settings are the first ones, or those with one adjustment. -/
theorem settings : ∀ m ∈ ms, m.state.settings = s.settings ∨
    m.state.settings = { s.settings with reset := true } ∨
    m.state.settings = { s.settings with disallowLocal := true } := by
  rcases h with hearly | ⟨before, first, after, rfl, hbefore, -, hfirst, hafter⟩
  · exact fun m hm => .inl (hearly m hm).state.settings
  · refine List.forall_mem_append.mpr ⟨fun m hm => .inl (hbefore m hm).state.settings,
      List.forall_mem_cons.mpr ⟨.inl hfirst.settings, fun m hm => ?_⟩⟩
    rw [(hafter m hm).settings, LoadMode.settle]
    split
    · exact .inr (.inl rfl)
    · exact .inr (.inr rfl)
    · exact .inl rfl

/-- At most one mode was warned of. -/
theorem warned : ∀ m ∈ ms, ∃ said warned later,
    m.state.trace.log = s.trace.log ++ said ++ warned ++ later ∧
      warned.length ≤ 1 ∧ NoMode said ∧ NoMode later := by
  have hnone : ∀ {t : State}, s.Quiet t → ∃ said warned later,
      t.trace.log = s.trace.log ++ said ++ warned ++ later ∧
        warned.length ≤ 1 ∧ NoMode said ∧ NoMode later := fun ht => by
    obtain ⟨said, hsaid, hquiet⟩ := ht.log
    exact ⟨said, [], [], by simp [hsaid], Nat.zero_le 1, hquiet, nofun⟩
  rcases h with hearly | ⟨before, first, after, rfl, hbefore, -, hfirst, hafter⟩
  · exact fun m hm => hnone (hearly m hm).state
  · refine List.forall_mem_append.mpr ⟨fun m hm => hnone (hbefore m hm).state,
      List.forall_mem_cons.mpr ⟨hnone hfirst, fun m hm => ?_⟩⟩
    obtain ⟨said, later, hlog, hquiet⟩ := (hafter m hm).log
    refine ⟨said, _, later, hlog, ?_, hquiet⟩
    rw [LoadMode.notes]
    cases LoadMode.named? first.state.context.config <;> simp

end OneShot

/-- **The load mode.** In every session of passes, best efforts and calls of the adapter, over any
contexts, whatever fails in it and whatever callbacks do, at most the first call of the adapter
reads the load mode, and at most one mode is ever warned of. At every moment the settings are the
first ones, or after that call the ones that the mode of its configuration makes of them; they only
go on. No pass looks for a source or considers additions before that call. -/
theorem session_one_shot {s : State} (hunread : s.modeRead.isSet = false)
    (commands : List Command)
    (hcalls : ∀ c ∈ commands,
      c.isPass = true ∨ c = .applyLoadMode ∨ ∃ context, c = .enter context) :
    OneShot s (sessionMoments commands s) ∧
    ((sessionMoments commands s).Pairwise fun m n => m.state.settings.Grows n.state.settings) ∧
    ∀ m ∈ sessionMoments commands s,
      (m.state.settings = s.settings ∨ m.state.settings = { s.settings with reset := true } ∨
        m.state.settings = { s.settings with disallowLocal := true }) ∧
      ∃ said warned later, m.state.trace.log = s.trace.log ++ said ++ warned ++ later ∧
        warned.length ≤ 1 ∧ NoMode said ∧ NoMode later := by
  have h : OneShot s (sessionMoments commands s) :=
    session_reads_once commands hcalls hunread (.refl s)
  exact ⟨h, h.grows, fun m hm => ⟨h.settings m hm, h.warned m hm⟩⟩

/-- A context whose configuration gives a word for the load mode. -/
def modeContext (word : String) : Context :=
  { config := { settings := [(.text "catalog", .map [(.text "load_mode", .text word)])] } }

/-- After a pass in a context of one mode, a context of another mode changes nothing. -/
theorem session_one_shot_of_two_modes :
    let s : State := { context := modeContext "load-catalog-url", callbacks := [.populates 1] }
    let commands := [.populate true none, .enter (modeContext "load-persisted-state"), .bestEffort]
    OneShot s (sessionMoments commands s) ∧
      (session commands s).2.settings = { s.settings with reset := true } := by
  intro s commands
  refine ⟨(session_one_shot (s := s) rfl commands ?_).1, ?_⟩
  · simp [commands, Command.isPass]
  · decide +kernel

end ItemCatalog.Population
