import ItemCatalog.Proofs.Population.Notices
import ItemCatalog.Proofs.Population.SettledMode

/-! # Unknown modes: a load mode that names none

A configuration may give a load mode that names none. Whoever is the first to read it fails, before
anything is looked for or read, and that is the one time that it is read: from then on everything is
as if the configuration gave no load mode.

* `applyLoadMode_refuses`: the adapter;
* `starts_refused`: a pass;
* `session_refuses_once`: sessions in one context. -/

namespace ItemCatalog.Population

open Step

namespace LoadMode

/-- A configuration gives a load mode that names none. -/
structure Unknown (c : Config) : Prop where
  given : c.get setting ≠ .null
  unnamed : ∀ m : LoadMode, m.word ≠ normalize (c.get setting).display

/-- The fault of such a load mode: a value that has no text cannot be compared with the words. -/
def refusal (c : Config) : Fault :=
  if (c.get setting).isOverlong then .overlong else notAMode (c.get setting)

theorem coerce_of_unknown {c : Config} (h : Unknown c) :
    coerce (c.get setting) = .error (refusal c) := by
  have hfind : (all.find? fun m => m.word == normalize (c.get setting).display) = none :=
    List.find?_eq_none.mpr fun m _ hm => h.unnamed m (beq_iff_eq.mp hm)
  unfold coerce refusal
  rw [hfind]
  split_ifs <;> rfl

end LoadMode

/-! ### The adapter -/

/-- The load mode was not read yet, and the configuration is this one. -/
structure Unread (c : Config) (s : State) : Prop where
  unread : s.modeRead.isSet = false
  config : s.context.config = c

/-- The state with the load mode read. -/
def State.modeUsed (s : State) : State :=
  { s with modeRead := ⟨true⟩ }

/-- **The first call of the adapter** fails, and changes nothing but its flag. -/
theorem applyLoadMode_refuses {c : Config} (hc : LoadMode.Unknown c) {s : State}
    (hs : Unread c s) : applyLoadMode s = (.error (LoadMode.refusal c), s.modeUsed) := by
  obtain ⟨hunread, rfl⟩ := hs
  have happly : LoadMode.apply s.modeRead s.context.config s.settings =
      ((.error (LoadMode.refusal s.context.config), []), ⟨true⟩) := by
    rw [LoadMode.apply, OneShotFlag.compareAndSet, if_pos hunread]
    show (LoadMode.read s.context.config s.settings, _) = _
    rw [readMode_of_ne_null hc.given, LoadMode.coerce_of_unknown hc]
  rw [applyLoadMode_run, State.modeSettings, State.modeSettled, State.loadMode, happly,
    State.say, List.append_nil]
  rfl

/-! ### Passes -/

theorem unread_installs (c : Config) : Installs (Unread c) where
  say _ hs := ⟨hs.unread, hs.config⟩
  look {s} hs := by
    unfold State.afterLook
    cases s.context.rival with
    | none => exact hs
    | some r => exact ⟨hs.unread, hs.config⟩
  write _ hs := ⟨hs.unread, hs.config⟩
  make hs := ⟨hs.unread, hs.config⟩
  count hs := ⟨hs.unread, hs.config⟩

theorem sources_installs (x : Sources) : Installs fun s => s.sources = x where
  say _ hs := hs
  look {s} hs := by
    have hsame : s.afterLook.sources = s.sources := by
      unfold State.afterLook
      split <;> rfl
    exact hsame.trans hs
  write _ hs := hs
  make hs := hs
  count hs := hs

/-- **The stages** of a pass that is the first to read the mode fail before anything else. The
sources are as they were, with the record of what was read. -/
theorem starts_refused {config : Config} (hconfig : LoadMode.Unknown config) {c : Command}
    {t : State} {p : PassStart} (hstarts : c.Starts t p) (ht : Unread config t) (inner : Inner) :
    p.run inner = (.error (LoadMode.refusal config), p.state.modeUsed) ∧
      p.state.modeUsed.sources = t.sources := by
  have hunread := starts_keep (unread_installs config).places hstarts ht
  refine ⟨?_, starts_keep (sources_installs t.sources).places hstarts rfl⟩
  rw [PassStart.run, stages_eq, bind_run, applyLoadMode_refuses hconfig hunread]

/-! ### Sessions -/

/-- Passes stay in their context. -/
theorem config_pays (config : Config) : Pays fun _ s => s.context.config = config where
  serves _ :=
    ⟨fun _ _ hs => hs, fun _ hs => hs, fun _ hs => hs, fun _ _ hs => hs, fun _ _ hs => hs⟩
  places _ := Installs.places ⟨fun _ hs => hs,
    fun {s} hs => (afterLook_inputs s).1.config.trans hs, fun _ hs => hs, fun hs => hs,
    fun hs => hs⟩
  mode _ s hs := by
    rw [applyLoadMode_run]
    exact hs
  call _ hs := hs
  clear hs := hs
  told _ hs := hs
  register hs := hs
  unspent hs := hs

theorem session_config {commands : List Command} (hone : ∀ context, .enter context ∉ commands)
    (s : State) : (session commands s).2.context.config = s.context.config := by
  induction commands generalizing s with
  | nil => rfl
  | cons c rest ih =>
    have hI := config_pays s.context.config
    have hallows : Allows (fun _ => True) fun t => t.context.config = s.context.config :=
      ⟨fun _ _ _ => trivial, fun hs _ => hs, fun _ hs => hs⟩
    have hfirst : (c.run s).2.context.config = s.context.config :=
      command_keeps any_closed hallows (hI.serves 0) (hI.places 0) (hI.mode 0)
        (fun _ _ _ => hI.clear (k := 0)) rfl
        (fun new message preferNew _ => (installed_comes new message preferNew s).inputs.config)
        fun context hc => absurd (hc ▸ List.mem_cons_self) (hone context)
    exact (ih (fun context hmem => hone context (List.mem_cons_of_mem _ hmem)) _).trans hfirst

theorem CallIn.config {commands : List Command} (hone : ∀ context, .enter context ∉ commands)
    {s t : State} {depth : Nat} {c : Command} (h : CallIn commands s depth c t) :
    t.context.config = s.context.config :=
  h.keeps (config_pays s.context.config) fun before c after hsplit => by
    subst hsplit
    exact session_config (fun context hmem => hone context (List.mem_append_left _ hmem)) s

/-- **An unknown load mode** is refused once. In every session in one context whose configuration
gives a load mode that names none, every pass, in a callback, too, and every call of the adapter
fails as long as the mode was not read. It fails before anything is looked for or read, and the mode
counts as read. From then on the rest of the session is as with every other configuration that
agrees apart from the load mode, and the one without the load mode is among them. -/
theorem session_refuses_once {s : State} (hmode : LoadMode.Unknown s.context.config)
    {commands : List Command} (hone : ∀ context, .enter context ∉ commands) :
    (∀ {depth c t p}, CallIn commands s depth c t → c.Starts t p → t.modeRead.isSet = false →
      c.pass (passes depth) t =
          (.error (LoadMode.refusal s.context.config), p.state.modeUsed.count) ∧
        p.state.modeUsed.count.sources = t.sources) ∧
    (∀ {depth t}, CallIn commands s depth .applyLoadMode t → t.modeRead.isSet = false →
      applyLoadMode t = (.error (LoadMode.refusal s.context.config), t.modeUsed)) ∧
    (∀ before after, commands = before ++ after → (session before s).2.modeRead.isSet = true →
      (session commands s).2.modeRead.isSet = true ∧
      ∀ d, AgreeApart s.context.config d →
        session after ((session before s).2.withConfig d) =
          ((session after (session before s).2).1, (session commands s).2.withConfig d)) ∧
    AgreeApart s.context.config (LoadMode.without s.context.config) ∧
    (LoadMode.without s.context.config).get LoadMode.setting = .null := by
  refine ⟨fun hcall hstarts hunread => ?_, fun hcall hunread => ?_, fun before after hsplit hread =>
    ?_, without_agrees s.context.config⟩
  · obtain ⟨hrun, hsources⟩ := starts_refused hmode hstarts ⟨hunread, hcall.config hone⟩ (passes _)
    exact ⟨pass_of_error hstarts hrun, hsources⟩
  · exact applyLoadMode_refuses hmode ⟨hunread, hcall.config hone⟩
  · subst hsplit
    have hbefore : HasRead s.context.config (session before s).2 :=
      ⟨hread, session_config (fun context hmem => hone context (List.mem_append_left _ hmem)) s⟩
    have hafter : ∀ context, .enter context ∉ after := fun context hmem =>
      hone context (List.mem_append_right _ hmem)
    rw [session_append]
    have hself : AgreeApart s.context.config s.context.config := ⟨rfl, rfl, rfl⟩
    exact ⟨(session_heedless hself hafter hbefore).1.read, fun d hd =>
      (session_heedless hd hafter hbefore).2⟩

/-- A state in which the load mode names none, and one text can be read. -/
def unknownMode : State where
  context := modeContext "bogus"
  settings := { initialUri := some "mem://a" }
  loader := some {
    timeout := .null
    handlers := [("mem", fun _ => .ok "catalog: \x7bitems: [\x7bid: a\x7d]\x7d")] }

theorem unknownMode_unknown : LoadMode.Unknown unknownMode.context.config := by
  have hget : unknownMode.context.config.get LoadMode.setting = .text "bogus" := by
    decide +kernel
  refine ⟨?_, fun m => ?_⟩ <;> rw [hget]
  · decide
  · cases m <;> decide +kernel

/-- The first pass is refused, and the second one is as without the load mode. -/
theorem session_refuses_once_of_bogus_mode :
    let pass := Command.populate true none
    let unset := LoadMode.without unknownMode.context.config
    LoadMode.Unknown unknownMode.context.config ∧
    (pass.pass (passes 0) unknownMode).1 = .error (LoadMode.notAMode (.text "bogus")) ∧
    (pass.pass (passes 0) unknownMode).2.sources = unknownMode.sources ∧
    session [pass] ((session [pass] unknownMode).2.withConfig unset) =
      ((session [pass] (session [pass] unknownMode).2).1,
        (session [pass, pass] unknownMode).2.withConfig unset) := by
  intro pass unset
  have hone : ∀ context, Command.enter context ∉ [pass, pass] := by simp [pass]
  obtain ⟨hrefused, -, hlater, hagree, -⟩ := session_refuses_once unknownMode_unknown hone
  obtain ⟨hfirst, hsources⟩ := hrefused (CallIn.command [] [pass] rfl)
    (Command.Starts.populate true none unknownMode) rfl
  have hfault : LoadMode.refusal unknownMode.context.config = LoadMode.notAMode (.text "bogus") :=
    rfl
  refine ⟨unknownMode_unknown, ?_, ?_, ?_⟩
  · exact (congrArg Prod.fst hfirst).trans (congrArg Except.error hfault)
  · exact (congrArg (fun r => r.2.sources) hfirst).trans hsources
  · exact (hlater [pass] [pass] rfl (by decide +kernel)).2 unset hagree

/-- **The second pass** reads the source, although the load mode of its configuration names none. -/
theorem unknown_mode_ignored_later :
    let commands := [Command.populate true none, Command.populate true none]
    LoadMode.Unknown unknownMode.context.config ∧ unknownMode.modeRead.isSet = false ∧
    (session commands unknownMode).1 =
      [.name (.error (LoadMode.notAMode (.text "bogus"))), .name (.ok 0)] ∧
    (session commands unknownMode).2.trace.fetched = ["mem://a"] := by
  intro commands
  let pass : Step CatalogName := nested fun inner => populateCatalog inner true none
  have hrefused := (starts_refused unknownMode_unknown (.populate true none unknownMode) ⟨rfl, rfl⟩
    (passes (totalWeight unknownMode.callbacks))).1
  have hfirst : ((Command.populate true none).run unknownMode).1 =
      .name (.error (LoadMode.notAMode (.text "bogus"))) :=
    congrArg Prod.fst (command_of_error (.populate true none unknownMode) hrefused)
  have hsecond : (pass (pass unknownMode).2).1 = .ok 0 := eq_ok_of_toOption (by decide +kernel)
  have hanswers : (session commands unknownMode).1 =
      [((Command.populate true none).run unknownMode).1, .name (pass (pass unknownMode).2).1] := rfl
  rw [hanswers, hfirst, hsecond]
  exact ⟨unknownMode_unknown, rfl, rfl, by decide +kernel⟩

end ItemCatalog.Population
