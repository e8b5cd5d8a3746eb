import ItemCatalog.Proofs.Population.Delivery
import ItemCatalog.Proofs.Population.OneShot

/-! # Coherence: one catalog from the first installation on

A session about one context, whose slot only its passes write to, starts with an empty slot and a
count of zero (`Bare`). The first pass installs its catalog before its stages begin and is counted
after they end, whatever fails in between. From the installation on the slot holds this catalog
(`Holding`), so that passes inside other passes are about it, and whoever asks for the catalog of
the context gets it without another pass.

* `holding_lasts`: whatever happens during passes keeps the installed catalog in the slot;
* `command_bare`: what a command does that may be the first to install a catalog;
* `command_holding`: what a command does afterwards;
* `session_coherent`: whole sessions, by induction on the commands. -/

namespace ItemCatalog.Population

open Step

/-! ### Work -/

/-- Since a state, no odd state was warned of. -/
def NothingOdd (s t : State) : Prop :=
  ∃ said, t.trace.log = s.trace.log ++ said ∧ ∀ r ∈ said, ¬ Warns oddOpening r

theorem NothingOdd.refl (s : State) : NothingOdd s s := ⟨[], (List.append_nil _).symm, nofun⟩

theorem NothingOdd.trans {s t u : State} (h : NothingOdd s t) (h' : NothingOdd t u) :
    NothingOdd s u := by
  obtain ⟨said, hsaid, hodd⟩ := h
  obtain ⟨said', hsaid', hodd'⟩ := h'
  refine ⟨said ++ said', ?_, List.forall_mem_append.mpr ⟨hodd, hodd'⟩⟩
  rw [hsaid', hsaid, List.append_assoc]

/-- Since a state there was nothing but work: nothing happened to the slot and the count, and no odd
state was warned of. -/
structure OnlyWork (s t : State) : Prop extends Untouched s t where
  writes : t.trace.writes = s.trace.writes
  calls : t.trace.calls = s.trace.calls
  log : NothingOdd s t

/-- What holds on after work is kept by the work of the stages. -/
theorem serves_of_onlyWork {I : State → Prop} (hI : ∀ s t, OnlyWork s t → I s → I t) :
    Serves I where
  say _ hlog := hI _ _ ⟨⟨rfl, rfl, rfl, rfl⟩, rfl, rfl, _, rfl, fun r hr => (hlog r hr).odd⟩
  ask _ := hI _ _ ⟨⟨rfl, rfl, rfl, rfl⟩, rfl, rfl, .refl _⟩
  loader _ := hI _ _ ⟨⟨rfl, rfl, rfl, rfl⟩, rfl, rfl, .refl _⟩
  fetch _ _ := hI _ _ ⟨⟨rfl, rfl, rfl, rfl⟩, rfl, rfl, .refl _⟩
  setCatalog _ _ := hI _ _ ⟨⟨rfl, rfl, rfl, rfl⟩, rfl, rfl, .refl _⟩

/-- A mode that is warned of is nothing odd. -/
theorem notes_odd (c : Config) : ∀ r ∈ LoadMode.notes c, ¬ Warns oddOpening r := by
  intro r hr
  rw [LoadMode.notes, Option.mem_toList, Option.map_eq_some_iff] at hr
  obtain ⟨m, -, rfl⟩ := hr
  exact fun h => not_opens (c := 'O') (d := 'L') rfl
    (head_append (head_append (head_append rfl _) _) _) (by decide) (warns_iff.mp h)

/-- **The load mode** is work. -/
theorem applyLoadMode_onlyWork (s : State) : OnlyWork s (applyLoadMode s).2 := by
  cases hread : s.modeRead.isSet with
  | true =>
    rw [applyLoadMode_later hread]
    exact ⟨⟨rfl, rfl, rfl, rfl⟩, rfl, rfl, .refl s⟩
  | false =>
    have hlog := (applyLoadMode_first hread).2.2
    rw [applyLoadMode_run] at hlog ⊢
    exact ⟨⟨rfl, rfl, rfl, rfl⟩, rfl, rfl, _, hlog, notes_odd _⟩

/-- Whether a command does the work of one of the stages of a pass, and tells no callbacks. -/
def Command.isWork : Command → Bool
  | .applyLoadMode => true
  | .populateInitial _ => true
  | .populateAdditions _ => true
  | _ => false

theorem Command.work_keeps {I : State → Prop} (hI : ∀ s t, OnlyWork s t → I s → I t) {c : Command}
    (hc : c.isWork = true) {t : State} (ht : I t) : I (c.run t).2 := by
  have hserves := serves_of_onlyWork hI
  cases c with
  | applyLoadMode => exact hI t _ (applyLoadMode_onlyWork t) ht
  | populateInitial name => exact populateInitial_keeps hserves name t ht
  | populateAdditions name => exact populateAdditions_keeps hserves name t ht
  | _ => cases hc

theorem Command.work_moments {c : Command} (hc : c.isWork = true) (t : State) :
    ∃ event, (∀ depth place action, event ≠ .acts depth place action) ∧
      c.moments t = [⟨none, event, t⟩, ⟨none, .ends, (c.run t).2⟩] := by
  cases c with
  | applyLoadMode => exact ⟨.mode, nofun, rfl⟩
  | populateInitial name => exact ⟨.initial, nofun, rfl⟩
  | populateAdditions name => exact ⟨.additions, nofun, rfl⟩
  | _ => cases hc

/-! ### Before and after the first installation -/

section States

variable {D : Callback → Prop} {s t u : State} {c : CatalogName} {n : Nat}

/-- Since a state, no catalog was installed and no pass was counted. -/
structure Bare (s t : State) : Prop where
  slot : t.context.slot = none
  rival : t.context.rival = none
  runs : t.runs.value = 0
  writes : t.trace.writes = s.trace.writes
  calls : t.trace.calls = s.trace.calls
  log : NothingOdd s t

/-- Since a state, callbacks that asked for the catalog of the context got none but this. -/
def Got (s : State) (c : CatalogName) (t : State) : Prop :=
  ∃ calls, t.trace.calls = s.trace.calls ++ calls ∧
    ∀ place found, .got place found ∈ calls → found = some c

theorem Got.call (h : Got s c t) {call : Call}
    (hcall : ∀ place found, call = .got place found → found = some c) : Got s c (t.call call) := by
  obtain ⟨calls, hcalls, hgot⟩ := h
  refine ⟨calls ++ [call], ?_, fun place found hmem => ?_⟩
  · rw [← List.append_assoc, ← hcalls]
    rfl
  · rcases List.mem_append.mp hmem with hmem | hmem
    · exact hgot place found hmem
    · exact hcall place found (List.mem_singleton.mp hmem).symm

/-- Since a state, one catalog was installed, and it is in the slot; callbacks got no other one. No
odd state was warned of, if callbacks whose actions are of a class run no passes. -/
structure Holding (D : Callback → Prop) (s : State) (c : CatalogName) (n : Nat) (t : State) :
    Prop where
  slot : t.context.slot = some c
  rival : t.context.rival = none
  runs : n ≤ t.runs.value
  writes : t.trace.writes = s.trace.writes ++ [some c]
  got : Got s c t
  log : (∀ n, ¬ D (.populates n)) → NothingOdd s t

theorem Bare.of_onlyWork (h : OnlyWork t u) (ht : Bare s t) : Bare s u where
  slot := h.slot.trans ht.slot
  rival := h.rival.trans ht.rival
  runs := h.runs ▸ ht.runs
  writes := h.writes.trans ht.writes
  calls := h.calls.trans ht.calls
  log := ht.log.trans h.log

theorem Bare.look (ht : Bare s t) : Bare s t.afterLook := by
  rw [afterLook_of_no_rival ht.rival]
  exact ht

/-- A new catalog goes into an empty slot. -/
theorem Bare.install (ht : Bare s t) (c : CatalogName) :
    Holding D s c 0 ((t.make .empty).2.write (some c)) where
  slot := rfl
  rival := ht.rival
  runs := Nat.zero_le _
  writes := congrArg (· ++ [some c]) ht.writes
  got := ⟨[], ht.calls.trans (List.append_nil _).symm, nofun⟩
  log _ := ht.log

theorem installed_of_empty (hslot : t.context.slot = none) (hrival : t.context.rival = none)
    (new : CatalogName) (message : Option String) (preferNew : Bool) :
    t.installed new message preferNew = t.write (some new) := by
  unfold State.installed install
  simp only [bind_run, look_run, afterLook_of_no_rival hrival, modify_run, hslot]
  rfl

/-- The first pass installs its catalog before its stages begin. -/
theorem Begins.of_bare (h : Begins t c u) (ht : Bare s t) : Holding D s c 0 u := by
  induction h with
  | populate t =>
    obtain ⟨hname, htarget⟩ := target_of_none t ht.slot
    have hrun : t.runs.hasRun = false := by
      rw [RunCounter.hasRun, ht.runs]
      rfl
    have hinstalled : t.replaced = (t.make .empty).2.write (some t.catalogs.length) := by
      rw [State.replaced, hrun]
      exact installed_of_empty (t := (t.make .empty).2) ht.slot ht.rival _ _ _
    rw [hname, htarget, afterLook_of_no_rival ht.rival, hinstalled]
    exact ht.install _
  | bestEffort hinstalls =>
    rw [early_of_installs hinstalls, afterLook_of_no_rival ht.rival]
    exact ht.install _
  | look _ ih => exact ih ht.look

namespace Holding

theorem of_onlyWork (h : OnlyWork t u) (ht : Holding D s c n t) : Holding D s c n u where
  slot := h.slot.trans ht.slot
  rival := h.rival.trans ht.rival
  runs := h.runs ▸ ht.runs
  writes := h.writes.trans ht.writes
  got := by
    rw [Got, h.calls]
    exact ht.got
  log hquiet := (ht.log hquiet).trans h.log

theorem look (ht : Holding D s c n t) : Holding D s c n t.afterLook := by
  rw [afterLook_of_no_rival ht.rival]
  exact ht

theorem of_runs {m : Nat} (ht : Holding D s c n t) (hm : m ≤ t.runs.value) :
    Holding D s c m t :=
  { ht with runs := hm }

theorem not_installs (ht : Holding D s c n t) : t.installs ≠ true := fun h => by
  rw [installs_iff, ht.slot] at h
  cases h.1

/-- A later pass is about the installed catalog, and finds nothing odd once a pass was counted. -/
theorem of_begins {name : CatalogName} (h : Begins t name u) (ht : Holding D s c 1 t) :
    name = c ∧ Holding D s c 1 u := by
  induction h with
  | populate t =>
    obtain ⟨hname, htarget⟩ := target_of_some t ht.slot
    have hrun : t.runs.hasRun = true := decide_eq_true ht.runs
    rw [htarget, afterLook_of_no_rival ht.rival, if_pos hrun]
    exact ⟨hname, ht⟩
  | bestEffort hinstalls => exact absurd hinstalls ht.not_installs
  | look _ ih => exact ih ht.look

end Holding

/-- **Whatever happens during passes** keeps the installed catalog in the slot, unless a callback
empties it, and the passes that callbacks start are about this catalog. -/
theorem holding_lasts (hclears : ∀ n, ¬ D (.clears n)) (s : State) (c : CatalogName) (n : Nat) :
    Lasts D (Holding D s c n) (· = c) where
  serves := serves_of_onlyWork fun _ _ h ht => ht.of_onlyWork h
  look _ ht := ht.look
  count _ ht := { ht with runs := Nat.le_succ_of_le ht.runs }
  mode t ht := ht.of_onlyWork (applyLoadMode_onlyWork t)
  told _ _ ht := { ht with got := ht.got.call nofun }
  got t place ht := by
    rw [afterLook_of_no_rival ht.rival]
    refine { ht with got := ht.got.call fun _ found h => ?_ }
    cases h
    exact ht.slot
  callbacks _ _ ht := { ht with }
  clear n hn := absurd hn (hclears n)
  retarget n hn t ht := by
    obtain ⟨-, htarget⟩ := target_of_some t ht.slot
    rw [htarget, afterLook_of_no_rival ht.rival]
    split
    · exact ht
    · -- Inside the first pass none is counted yet, and that is the odd state that is warned of.
      exact { ht with log := fun h => absurd hn (h n) }
  early t hslot ht := by
    rw [ht.slot] at hslot
    cases hslot
  ofTarget t ht := (target_of_some t ht.slot).1
  ofEarly _ ht h := absurd h ht.not_installs

end States

/-! ### Commands -/

/-- A moment before the first installation: callbacks do not act. -/
structure Moment.IsBare (s : State) (m : Moment) : Prop where
  state : Bare s m.state
  idle : ∀ depth place action, m.event ≠ .acts depth place action

/-- A moment after the first installation: whenever callbacks act, this is about the installed
catalog. -/
structure Moment.Holds (D : Callback → Prop) (s : State) (c : CatalogName) (m : Moment) :
    Prop where
  state : Holding D s c 0 m.state
  pass : ∀ depth place action, m.event = .acts depth place action → m.pass = some c

section Commands

variable {D : Callback → Prop} (hclears : ∀ n, ¬ D (.clears n)) {s t : State} {c : CatalogName}

theorem Bare.ends (ht : Bare s t) : (⟨none, .ends, t⟩ : Moment).IsBare s :=
  ⟨ht, nofun⟩

theorem Holding.ends {n : Nat} (ht : Holding D s c n t) :
    (⟨none, .ends, t⟩ : Moment).Holds D s c :=
  ⟨ht.of_runs (Nat.zero_le _), nofun⟩

include hclears

/-- From the installation on, a pass that is about the installed catalog keeps it, and is counted at
last. -/
theorem holding_of_pass {u v : State} {rest : List Moment} (hu : Holding D s c 0 u)
    (hcount : 0 < v.runs.value)
    (hkeeps : ∀ D I N, Lasts D I N → N c → I (applyLoadMode u).2 → Leads D I N rest (I v))
    (htakes : ∀ m ∈ rest, m.Takes D) :
    Holding D s c 1 v ∧ ∀ m ∈ (⟨some c, .mode, u⟩ : Moment) :: rest ++ [⟨none, .ends, v⟩],
      m.Holds D s c := by
  have hI := holding_lasts hclears s c 0
  obtain ⟨hv, hrest⟩ := hkeeps _ _ _ hI rfl (hI.mode u hu) htakes
  refine ⟨hv.of_runs hcount, List.forall_mem_append.mpr ⟨List.forall_mem_cons.mpr
    ⟨⟨hu, nofun⟩, fun m hm => ⟨(hrest m hm).state, fun _ _ _ _ => ?_⟩⟩,
    List.forall_mem_singleton.mpr hv.ends⟩⟩
  obtain ⟨name, hname, rfl⟩ := (hrest m hm).pass
  exact hname

/-- What a command does that may be the first to install a catalog: nothing to the slot and the
count, or it installs a catalog at its first moment and counts a pass. -/
theorem command_bare {d : Command} (hd : d.isPass = true ∨ d.isWork = true) (ht : Bare s t)
    (htakes : ∀ m ∈ d.moments t, m.Takes D) :
    (Bare s (d.run t).2 ∧ ∀ m ∈ d.moments t, m.IsBare s) ∨
      ∃ c, Holding D s c 1 (d.run t).2 ∧ ∀ m ∈ d.moments t, m.Holds D s c := by
  rcases hd with hd | hd
  · obtain ⟨ms, hmoments, hruns⟩ := d.runs hd t
    rw [hmoments] at htakes ⊢
    cases hruns with
    | idle hkeeps =>
      have hend := hkeeps _ (fun u hu => hu.look) (fun u _ hinstalls hu => by
        rw [installs_iff.mpr ⟨hu.slot, hu.rival⟩] at hinstalls
        cases hinstalls) ht
      exact .inl ⟨hend, List.forall_mem_singleton.mpr hend.ends⟩
    | pass name u hbegins hcount hkeeps =>
      have hrest := (List.forall_mem_cons.mp (List.forall_mem_append.mp htakes).1).2
      exact .inr ⟨name, holding_of_pass hclears (hbegins.of_bare ht) hcount hkeeps hrest⟩
  · obtain ⟨event, hidle, hmoments⟩ := d.work_moments hd t
    have hend := d.work_keeps (I := Bare s) (fun _ _ h hu => hu.of_onlyWork h) hd ht
    rw [hmoments]
    exact .inl ⟨hend, List.forall_mem_cons.mpr
      ⟨⟨ht, hidle⟩, List.forall_mem_singleton.mpr hend.ends⟩⟩

/-- What a command does once a catalog was installed and a pass counted: the catalog stays. -/
theorem command_holding {d : Command} (hd : d.isPass = true ∨ d.isWork = true)
    (ht : Holding D s c 1 t) (htakes : ∀ m ∈ d.moments t, m.Takes D) :
    Holding D s c 1 (d.run t).2 ∧ ∀ m ∈ d.moments t, m.Holds D s c := by
  rcases hd with hd | hd
  · obtain ⟨ms, hmoments, hruns⟩ := d.runs hd t
    rw [hmoments] at htakes ⊢
    cases hruns with
    | idle hkeeps =>
      have hI := holding_lasts hclears s c 1
      have hend := hkeeps _ hI.look (fun u hslot _ => hI.early u hslot) ht
      exact ⟨hend, List.forall_mem_singleton.mpr hend.ends⟩
    | pass name u hbegins hcount hkeeps =>
      have hrest := (List.forall_mem_cons.mp (List.forall_mem_append.mp htakes).1).2
      obtain ⟨rfl, hu⟩ := Holding.of_begins hbegins ht
      exact holding_of_pass hclears (hu.of_runs (Nat.zero_le _)) hcount hkeeps hrest
  · obtain ⟨event, hidle, hmoments⟩ := d.work_moments hd t
    have hend := d.work_keeps (I := Holding D s c 1) (fun _ _ h hu => hu.of_onlyWork h) hd ht
    rw [hmoments]
    exact ⟨hend, List.forall_mem_cons.mpr ⟨⟨ht.of_runs (Nat.zero_le _), fun _ _ _ h =>
      absurd h (hidle _ _ _)⟩, List.forall_mem_singleton.mpr hend.ends⟩⟩

/-! ### Sessions -/

theorem session_holding (commands : List Command)
    (hcalls : ∀ d ∈ commands, d.isPass = true ∨ d.isWork = true) (ht : Holding D s c 1 t)
    (htakes : ∀ m ∈ sessionMoments commands t, m.Takes D) :
    Holding D s c 1 (session commands t).2 ∧
      ∀ m ∈ sessionMoments commands t, m.Holds D s c := by
  induction commands generalizing t with
  | nil => exact ⟨ht, List.forall_mem_nil _⟩
  | cons d rest ih =>
    obtain ⟨hd, hrest⟩ := List.forall_mem_cons.mp hcalls
    obtain ⟨hfirst, hlater⟩ := List.forall_mem_append.mp htakes
    obtain ⟨hend, hmoments⟩ := command_holding hclears hd ht hfirst
    obtain ⟨hlast, hlater⟩ := ih hrest hend hlater
    exact ⟨hlast, List.forall_mem_append.mpr ⟨hmoments, hlater⟩⟩

/-- **A session** installs no catalog, or one that stays. -/
theorem session_bare (commands : List Command)
    (hcalls : ∀ d ∈ commands, d.isPass = true ∨ d.isWork = true) (ht : Bare s t)
    (htakes : ∀ m ∈ sessionMoments commands t, m.Takes D) :
    (Bare s (session commands t).2 ∧ ∀ m ∈ sessionMoments commands t, m.IsBare s) ∨
      ∃ c, Holding D s c 1 (session commands t).2 ∧
        ∃ before after, sessionMoments commands t = before ++ after ∧
          (∀ m ∈ before, m.IsBare s) ∧ ∀ m ∈ after, m.Holds D s c := by
  induction commands generalizing t with
  | nil => exact .inl ⟨ht, List.forall_mem_nil _⟩
  | cons d rest ih =>
    obtain ⟨hd, hrest⟩ := List.forall_mem_cons.mp hcalls
    obtain ⟨hfirst, hlater⟩ := List.forall_mem_append.mp htakes
    rw [session, sessionMoments]
    rcases command_bare hclears hd ht hfirst with ⟨hend, hbare⟩ | ⟨c, hend, hholds⟩
    · rcases ih hrest hend hlater with ⟨hlast, hall⟩ |
        ⟨c, hlast, before, after, hms, hbefore, hafter⟩
      · exact .inl ⟨hlast, List.forall_mem_append.mpr ⟨hbare, hall⟩⟩
      · refine .inr ⟨c, hlast, d.moments t ++ before, after, ?_,
          List.forall_mem_append.mpr ⟨hbare, hbefore⟩, hafter⟩
        rw [hms, List.append_assoc]
    · obtain ⟨hlast, hlater⟩ := session_holding hclears rest hrest hend hlater
      exact .inr ⟨c, hlast, [], _, rfl, List.forall_mem_nil _,
        List.forall_mem_append.mpr ⟨hholds, hlater⟩⟩

end Commands

/-! ### Asking for the catalog -/

/-- At a moment at which a callback asks the context for its catalog, it is given the one that its
pass is about, and that starts no other pass. -/
def Moment.Answers (m : Moment) : Prop :=
  ∀ depth place times, m.event = .acts depth place (.asks times) →
    ∃ c, m.pass = some c ∧ act (passes depth) place (.asks times) m.state =
      (.ok (), m.state.call (.got place (some c))) ∧ (passesMoments depth).ask m.state = []

/-- Who asks a context with a catalog is given it, if passes can be nested at all. -/
theorem asks_got {t : State} {c : CatalogName} (hslot : t.context.slot = some c)
    (hrival : t.context.rival = none) (depth place times : Nat) :
    act (passes (depth + 1)) place (.asks times) t = (.ok (), t.call (.got place (some c))) ∧
      (passesMoments (depth + 1)).ask t = [] := by
  have hask : getCatalog (passes depth) t = (.ok (some c), t) := by
    rw [getCatalog_of_some hslot, afterLook_of_no_rival hrival]
  constructor
  · show (getCatalog (passes depth) >>= fun name =>
      modify fun u : State => u.call (.got place name)) t = _
    rw [bind_run, hask]
    rfl
  · show getCatalogMoments depth (passesMoments depth) t = []
    rw [getCatalogMoments, hslot]
    rfl

theorem Moment.IsBare.answers {s : State} {m : Moment} (h : m.IsBare s) : m.Answers :=
  fun depth place _ hevent => absurd hevent (h.idle depth place _)

theorem Moment.Holds.answers {D : Callback → Prop} {s : State} {c : CatalogName} {m : Moment}
    (h : m.Holds D s c) (hable : m.Able) : m.Answers := by
  intro depth place times hevent
  have hdeep : 1 ≤ depth := Nat.le_trans (Nat.le_add_left _ _) (hable _ _ _ hevent)
  obtain ⟨depth, rfl⟩ := Nat.exists_eq_succ_of_ne_zero (Nat.ne_of_gt hdeep)
  exact ⟨c, h.pass _ _ _ hevent, asks_got h.state.slot h.state.rival depth place times⟩

/-! ### Coherent sessions -/

/-- **The slot and the count.** In a session about one context that starts with an empty slot and a
count of zero, whose slot no one but its passes writes to, whatever fails:

* after any of the commands there is a catalog in the slot exactly if a pass was counted;
* from the first installation on the slot holds the same catalog at every moment, this is all that
  was written to it, and callbacks that asked for the catalog of the context got no other one;
* whenever a callback asks for it, it is given the one that its pass is about, and that starts no
  other pass;
* no odd state is ever warned of, if callbacks run no passes. -/
theorem session_coherent {s : State} (hslot : s.context.slot = none)
    (hrival : s.context.rival = none) (hruns : s.runs.value = 0) (commands : List Command)
    (hcalls : ∀ d ∈ commands, d.isPass = true ∨ d.isWork = true)
    (hspared : ∀ m ∈ sessionMoments commands s, m.Takes fun a => a.kind ≠ .clears) :
    (∀ first rest, commands = first ++ rest →
      ((session first s).2.context.slot.isSome = true ↔ 0 < (session first s).2.runs.value)) ∧
    (∃ c before after, sessionMoments commands s = before ++ after ∧
      (∀ m ∈ before, m.state.context.slot = none ∧ m.state.trace.writes = s.trace.writes ∧
        m.state.trace.calls = s.trace.calls) ∧
      ∀ m ∈ after, m.state.context.slot = some c ∧
        m.state.trace.writes = s.trace.writes ++ [some c] ∧ Got s c m.state) ∧
    (∀ m ∈ sessionMoments commands s, m.Answers) ∧
    ((∀ m ∈ sessionMoments commands s, m.Takes fun a => a.kind ≠ .populates) →
      NothingOdd s (session commands s).2) := by
  have hbare : Bare s s := ⟨hslot, hrival, hruns, rfl, rfl, .refl s⟩
  -- The slot depends only on whether callbacks empty it; the class is smaller for the warnings.
  have hcoherent := session_bare (fun _ h => h rfl) commands hcalls hbare hspared
  have hable := sessionMoments_able commands s
  refine ⟨?_, ?_, ?_, fun hquiet => ?_⟩
  · rintro first rest rfl
    rw [sessionMoments_append] at hspared
    rcases session_bare (fun _ h => h rfl) first
        (fun d hd => hcalls d (List.mem_append_left _ hd)) hbare
        (fun m hm => hspared m (List.mem_append_left _ hm)) with ⟨hend, -⟩ | ⟨c, hend, -⟩
    · rw [hend.slot, hend.runs]
      exact iff_of_false nofun (Nat.lt_irrefl 0)
    · rw [hend.slot]
      exact iff_of_true rfl hend.runs
  · have hidle : ∀ {t : State}, Bare s t → t.context.slot = none ∧
        t.trace.writes = s.trace.writes ∧ t.trace.calls = s.trace.calls := fun ht =>
      ⟨ht.slot, ht.writes, ht.calls⟩
    rcases hcoherent with ⟨-, hall⟩ | ⟨c, -, before, after, hms, hbefore, hafter⟩
    · exact ⟨0, _, [], (List.append_nil _).symm, fun m hm => hidle (hall m hm).state,
        List.forall_mem_nil _⟩
    · refine ⟨c, before, after, hms, fun m hm => hidle (hbefore m hm).state, fun m hm => ?_⟩
      have hholds := (hafter m hm).state
      exact ⟨hholds.slot, hholds.writes, hholds.got⟩
  · rcases hcoherent with ⟨-, hall⟩ | ⟨c, -, before, after, hms, hbefore, hafter⟩
    · exact fun m hm => (hall m hm).answers
    · rw [hms] at hable ⊢
      exact List.forall_mem_append.mpr ⟨fun m hm => (hbefore m hm).answers, fun m hm =>
        (hafter m hm).answers (hable m (List.mem_append_right _ hm))⟩
  · have hboth : ∀ m ∈ sessionMoments commands s,
        m.Takes fun a => a.kind ≠ .clears ∧ a.kind ≠ .populates := fun m hm _ _ _ h =>
      ⟨hspared m hm _ _ _ h, hquiet m hm _ _ _ h⟩
    rcases session_bare (fun _ h => h.1 rfl) commands hcalls hbare hboth with
      ⟨hend, -⟩ | ⟨c, hend, -⟩
    · exact hend.log
    · exact hend.log fun _ h => h.2 rfl

/-- A context that can be asked for its catalog, with a callback that runs a pass and one that asks
for the catalog. -/
def askingState : State where
  context := { attached := true }
  callbacks := [.populates 1, .asks 2]

/-- The callback that asks is given the catalog of the pass, in the pass inside the other one and
after it. -/
theorem session_coherent_of_asking :
    (∀ m ∈ sessionMoments [.getCatalog, .populate true none] askingState, m.Answers) ∧
      ((session [.getCatalog, .populate true none] askingState).2.trace.calls.filter fun c =>
        c == .got 1 (some 0)).length = 2 := by
  refine ⟨(session_coherent (s := askingState) rfl rfl rfl [.getCatalog, .populate true none]
    ?_ ?_).2.2.1, by decide +kernel⟩
  · simp [Command.isPass]
  · decide +kernel

end ItemCatalog.Population
