import ItemCatalog.Proofs.Population.Actions

/-! # Callers: calls in turns

A call that looks at the slot of a context, installs a catalog, runs a pass or counts it does so in
turns: each look, each installation and each count is one, and what stands between them goes with
the next one. A pass is no turn; it takes its time.

* `alone_run`: a caller whose turns come one after the other does what its call does;
* `move_turn`: what a turn does to the slot and to the count, read off its definition;
* `pass_calm`: a pass whose callbacks neither empty the slot nor start passes does nothing to
  them. -/

namespace ItemCatalog.Population

open Step

/-! ### Callers and their turns -/

/-- A caller: it populates the catalog of the context, asks for it with a best effort, or installs
one. -/
inductive Racer where
  | populator (needsInitial : Bool) (items : Option Catalog.Handover)
  | asker
  | installer (new : CatalogName) (message : Option String) (preferNew : Bool)

/-- The warning of a caller whose installation finds a catalog. -/
def Racer.note : Racer → List Log.Record
  | .populator _ _ => alreadyNote (some replacingMessage)
  | .asker => alreadyNote (some revertingMessage)
  | .installer _ message _ => alreadyNote message

/-- How far a caller is. After its pass, this is to be counted, and who asks for the catalog looks
at the slot once more. -/
inductive Phase where
  | ready
  | saw (slot : Option CatalogName)
  | runs (name : CatalogName)
  | counts (name : CatalogName) (r : Except Fault Unit)
  | looks
  | done (r : Except Fault (Option CatalogName))

/-- What a turn of a caller is noted for: a look at the slot, an installation and what it returned,
and the start of a pass. -/
inductive Event where
  | looked
  | installed (new : CatalogName) (preferNew : Bool)
      (returned : Except Fault (Option CatalogName))
  | began

/-- An event is a look at the slot. -/
@[simp] def Event.isLook : Event → Bool
  | .looked => true
  | _ => false

/-- An event is the start of a pass. -/
@[simp] def Event.isStart : Event → Bool
  | .began => true
  | _ => false

/-- **A turn** of a caller: the phase after it, and what it is noted for. Running a pass is no turn,
and neither is having one's answer. -/
def Racer.move : Racer → Phase → Step (Phase × List Event)
  | .populator _ _, .ready => do return (.saw (← look), [.looked])
  | .populator _ _, .saw none => do
    if ← hasRun then say [recreateNote]
    let name ← make {}
    let previous ← install name (some replacingMessage) true
    return (.runs name, [.installed name true (.ok previous), .began])
  | .populator _ _, .saw (some name) => do
    if !(← hasRun) then say [repopulateNote]
    return (.runs name, [.began])
  | .populator _ _, .counts name r => do
    modify State.count
    return (.done (r.map fun _ => some name), [])
  | .asker, .ready => do
    match ← look with
    | some name => return (.done (.ok (some name)), [.looked])
    | none => return (.saw none, [.looked])
  | .asker, .saw _ => do
    let name ← make {}
    let previous ← install name (some revertingMessage) false
    return (if previous.isNone then .runs name else .looks,
      .installed name false (.ok previous) :: if previous.isNone then [.began] else [])
  | .asker, .counts _ r => do
    modify State.count
    match r with
    | .ok _ => return (.looks, [])
    | .error e => return (.done (.error e), [])
  | .asker, .looks => do return (.done (.ok (← look)), [.looked])
  | .installer new message preferNew, .ready => fun s =>
    -- An installation that ends with a fault is an answer, too.
    let (returned, t) := install new message preferNew s
    (.ok (.done returned, [.installed new preferNew returned]), t)
  | _, p => return (p, [])

/-! ### One caller alone -/

/-- The call of a caller. -/
def Racer.call (inner : Inner) : Racer → Step (Option CatalogName)
  | .populator needsInitial items => some <$> populateCatalog inner needsInitial items
  | .asker => Population.bestEffort inner
  | .installer new message preferNew => Population.install new message preferNew

/-- The pass of a caller. -/
def Racer.pass (inner : Inner) (name : CatalogName) : Racer → Step Unit
  | .populator needsInitial items => stages inner name needsInitial items
  | .asker => stages inner name true none
  | .installer _ _ _ => pure ()

/-- The phase that a caller comes to if it takes so many turns, or runs its pass, without anyone in
between. -/
def Racer.alone (c : Racer) (inner : Inner) : Nat → Phase → Step Phase
  | 0, p => return p
  | n + 1, .runs name => fun s =>
    c.alone inner n (.counts name (c.pass inner name s).1) (c.pass inner name s).2
  | n + 1, p => do
    let (p', _) ← c.move p
    c.alone inner n p'

section Alone

variable (inner : Inner) (s : State)

/-- A turn of a caller that is alone. -/
theorem alone_move {c : Racer} {p p' : Phase} {events : List Event} {t : State}
    (h : c.move p s = (.ok (p', events), t)) (hp : ∀ name, p ≠ .runs name) (n : Nat) :
    c.alone inner (n + 1) p s = c.alone inner n p' t := by
  have hbind : c.alone inner (n + 1) p s = (c.move p >>= fun q => c.alone inner n q.1) s := by
    -- `alone` unfolds only once the phase is known not to be a pass.
    cases p with
    | runs name => exact absurd rfl (hp name)
    | _ => rfl
  rw [hbind, bind_run, h]

theorem alone_done (c : Racer) (r : Except Fault (Option CatalogName)) (n : Nat) :
    c.alone inner n (.done r) s = (.ok (.done r), s) := by
  have hdone : c.move (.done r) s = (.ok (.done r, []), s) := by cases c <;> rfl
  induction n with
  | zero => rfl
  | succ n ih => rw [alone_move inner s hdone nofun, ih]

/-- The state after a catalog was installed, or not. -/
def State.installed (s : State) (new : CatalogName) (message : Option String) (preferNew : Bool) :
    State :=
  (install new message preferNew s).2

theorem install_run (new : CatalogName) (message : Option String) (preferNew : Bool) :
    install new message preferNew s = (s.previous message, s.installed new message preferNew) :=
  Prod.ext (installed_comes new message preferNew s).result_eq rfl

section Populator

variable (needsInitial : Bool) (items : Option Catalog.Handover)

/-- The state after a new catalog was made and installed, whatever is there. -/
def State.replaced (s : State) : State :=
  ((if s.runs.hasRun then s.say [recreateNote] else s).make .empty).2.installed s.catalogs.length
    (some replacingMessage) true

theorem move_replaces : (Racer.populator needsInitial items).move (.saw none) s =
    (.ok (.runs s.catalogs.length,
      [.installed s.catalogs.length true (.ok s.context.slot), .began]),
      s.replaced) := by
  unfold Racer.move State.replaced
  cases hrun : s.runs.hasRun <;>
    simp only [bind_run, hasRun_run, hrun, if_true, Bool.false_eq_true, if_false, say_run,
      make_run, install_run, previous_of_plain replacing_isPlain] <;> rfl

theorem move_keeps (name : CatalogName) :
    (Racer.populator needsInitial items).move (.saw (some name)) s =
      (.ok (.runs name, [.began]), if s.runs.hasRun then s else s.say [repopulateNote]) := by
  unfold Racer.move
  cases hrun : s.runs.hasRun <;>
    simp only [bind_run, hasRun_run, hrun, if_true, Bool.false_eq_true, if_false, Bool.not_true,
      Bool.not_false, say_run] <;> rfl

theorem target_of_none (hslot : s.context.slot = none) :
    s.targetName = s.afterLook.catalogs.length ∧ (target s).2 = s.afterLook.replaced := by
  refine ⟨?_, ?_⟩
  · rw [State.targetName, hslot, (afterLook_inputs s).2]
    rfl
  · unfold target State.replaced
    rw [bind_run, look_run, hslot]
    cases hrun : s.afterLook.runs.hasRun <;>
      simp only [bind_run, hasRun_run, hrun, if_true, Bool.false_eq_true, if_false, say_run,
        make_run, discard_run, install_run, previous_of_plain replacing_isPlain] <;> rfl

theorem target_of_some {name : CatalogName} (hslot : s.context.slot = some name) :
    s.targetName = name ∧ (target s).2 =
      if s.afterLook.runs.hasRun then s.afterLook else s.afterLook.say [repopulateNote] := by
  refine ⟨?_, ?_⟩
  · rw [State.targetName, hslot]
    rfl
  · unfold target
    rw [bind_run, look_run, hslot]
    cases hrun : s.afterLook.runs.hasRun <;>
      simp only [bind_run, hasRun_run, hrun, if_true, Bool.false_eq_true, if_false, Bool.not_true,
        Bool.not_false, say_run] <;> rfl

theorem alone_populator : (Racer.populator needsInitial items).alone inner 5 .ready s =
    (.ok (.done ((populateCatalog inner needsInitial items s).1.map some)),
      (populateCatalog inner needsInitial items s).2) := by
  have hpass : ∀ name t, (Racer.populator needsInitial items).alone inner 3 (.runs name) t =
      (.ok (.done ((stages inner name needsInitial items t).1.map fun _ => some name)),
        (stages inner name needsInitial items t).2.count) := fun _ _ => rfl
  have htarget : (Racer.populator needsInitial items).alone inner 5 .ready s =
      (Racer.populator needsInitial items).alone inner 3 (.runs s.targetName) (target s).2 := by
    have hlook : (Racer.populator needsInitial items).move .ready s =
        (.ok (.saw s.context.slot, [.looked]), s.afterLook) := rfl
    rw [alone_move inner s hlook nofun]
    cases hslot : s.context.slot with
    | none =>
      obtain ⟨hname, hstate⟩ := target_of_none s hslot
      rw [alone_move inner _ (move_replaces _ needsInitial items) nofun, hname, hstate]
    | some name =>
      obtain ⟨hname, hstate⟩ := target_of_some s hslot
      rw [alone_move inner _ (move_keeps _ needsInitial items name) nofun, hname, hstate]
  rw [htarget, hpass, pass_run]
  cases (stages inner s.targetName needsInitial items (target s).2).1 <;> rfl

end Populator

/-! ### One caller alone: asking and installing -/

theorem move_finds : Racer.asker.move .ready s =
    (.ok (match s.context.slot with
      | some name => .done (.ok (some name))
      | none => .saw none, [.looked]), s.afterLook) := by
  simp only [Racer.move, bind_run, look_run]
  cases s.context.slot <;> rfl

theorem move_asks (seen : Option CatalogName) : Racer.asker.move (.saw seen) s =
    (.ok (if s.context.slot.isNone then .runs s.catalogs.length else .looks,
      .installed s.catalogs.length false (.ok s.context.slot) ::
        if s.context.slot.isNone then [.began] else []),
      (s.make .empty).2.installed s.catalogs.length (some revertingMessage) false) := by
  unfold Racer.move
  simp only [bind_run, make_run, install_run, previous_of_plain reverting_isPlain]
  rfl

theorem alone_asker : Racer.asker.alone inner 5 .ready s =
    (.ok (.done (bestEffort inner s).1), (bestEffort inner s).2) := by
  cases hslot : s.context.slot with
  | some name =>
    have hlook := move_finds s
    rw [hslot] at hlook
    rw [alone_move inner s hlook nofun, alone_done, bestEffort_of_some hslot]
  | none =>
    have hlook := move_finds s
    rw [hslot] at hlook
    have hinstall := move_asks s.afterLook none
    rw [alone_move inner s hlook nofun, bestEffort_of_none hslot]
    cases hafter : s.afterLook.context.slot with
    | some other =>
      rw [hafter] at hinstall
      rw [alone_move inner _ hinstall nofun]
      rfl
    | none =>
      rw [hafter] at hinstall
      rw [alone_move inner _ hinstall nofun]
      show Racer.asker.alone inner 2 (.counts _ (stages inner s.afterLook.catalogs.length true none
        s.early.2).1) (stages inner s.afterLook.catalogs.length true none s.early.2).2 = _
      simp only [Option.isNone_none, if_true, bind_run, counted_run]
      rcases stages inner s.afterLook.catalogs.length true none s.early.2 with ⟨e | _, t⟩ <;> rfl

theorem move_installs (new : CatalogName) (message : Option String) (preferNew : Bool) :
    (Racer.installer new message preferNew).move .ready s =
      (.ok (.done (s.previous message), [.installed new preferNew (s.previous message)]),
        s.installed new message preferNew) := by
  have hrun := install_run s new message preferNew
  simp only [Racer.move, hrun]

/-- **A caller alone** does what its call does. -/
theorem alone_run (c : Racer) : c.alone inner 5 .ready s =
    (.ok (.done (c.call inner s).1), (c.call inner s).2) := by
  cases c with
  | populator needsInitial items =>
    rw [alone_populator, Racer.call, map_run]
  | asker => exact alone_asker inner s
  | installer new message preferNew =>
    rw [alone_move inner s (move_installs s new message preferNew) nofun, alone_done, Racer.call,
      install_run]

end Alone

/-! ### What a turn does -/

/-- The slot after a catalog was installed, or not. -/
def slotAfter (before : Option CatalogName) (new : CatalogName) (preferNew : Bool) :
    Option CatalogName :=
  if before.isNone || preferNew then some new else before

theorem slotAfter_ne_none (before : Option CatalogName) (new : CatalogName) (preferNew : Bool) :
    slotAfter before new preferNew ≠ none := by
  unfold slotAfter
  cases before <;> cases preferNew <;> simp

/-- What the installation of a caller gives, by what it finds in the slot: this, if the console
takes the warning about it. -/
def Racer.gives (console : Log.Console) (c : Racer) (before : Option CatalogName) :
    Except Fault (Option CatalogName) :=
  if before.isSome then (console.said c.note).map fun _ => before else .ok before

theorem gives_of_plain {c : Racer} (hplain : ∀ r ∈ c.note, r.IsPlain) (console : Log.Console)
    (before : Option CatalogName) : c.gives console before = .ok before := by
  rw [Racer.gives, Log.Console.said_of_takes (Log.Console.takes_plain hplain)]
  exact ite_self _

/-- Nothing happened to the slot, no pass was counted, and the console is the same. -/
structure Untouched (s t : State) : Prop where
  slot : t.context.slot = s.context.slot
  rival : t.context.rival = s.context.rival
  runs : t.runs = s.runs
  console : t.around.console = s.around.console

/-- **A turn**, by what it does to the slot and to the count: the phases, the slot before it and
after it, what it is noted for, and how many passes it counts. -/
inductive Turn (console : Log.Console) : Racer → Phase → Option CatalogName → Phase → List Event →
    Option CatalogName → Nat → Prop
  | look {needsInitial : Bool} {items : Option Catalog.Handover} {slot : Option CatalogName} :
      Turn console (.populator needsInitial items) .ready slot (.saw slot) [.looked] slot 0
  | replace {needsInitial : Bool} {items : Option Catalog.Handover} {slot : Option CatalogName}
      {name : CatalogName} : Turn console (.populator needsInitial items) (.saw none) slot
        (.runs name) [.installed name true (.ok slot), .began] (slotAfter slot name true) 0
  | keep {needsInitial : Bool} {items : Option Catalog.Handover} {slot : Option CatalogName}
      {name : CatalogName} : Turn console (.populator needsInitial items) (.saw (some name)) slot
        (.runs name) [.began] slot 0
  | finish {needsInitial : Bool} {items : Option Catalog.Handover} {slot : Option CatalogName}
      {name : CatalogName} {r : Except Fault Unit} : Turn console (.populator needsInitial items)
        (.counts name r) slot (.done (r.map fun _ => some name)) [] slot 1
  | find {name : CatalogName} :
      Turn console .asker .ready (some name) (.done (.ok (some name))) [.looked] (some name) 0
  | miss : Turn console .asker .ready none (.saw none) [.looked] none 0
  | win {seen : Option CatalogName} {name : CatalogName} : Turn console .asker (.saw seen) none
      (.runs name) [.installed name false (.ok none), .began] (slotAfter none name false) 0
  | lose {seen : Option CatalogName} {name other : CatalogName} : Turn console .asker (.saw seen)
      (some other) .looks [.installed name false (.ok (some other))]
      (slotAfter (some other) name false) 0
  | count {slot : Option CatalogName} {name : CatalogName} :
      Turn console .asker (.counts name (.ok ())) slot .looks [] slot 1
  | fail {slot : Option CatalogName} {name : CatalogName} {e : Fault} :
      Turn console .asker (.counts name (.error e)) slot (.done (.error e)) [] slot 1
  | again {slot : Option CatalogName} :
      Turn console .asker .looks slot (.done (.ok slot)) [.looked] slot 0
  | install {new : CatalogName} {message : Option String} {preferNew : Bool}
      {slot : Option CatalogName} {returned : Except Fault (Option CatalogName)}
      (h : returned = (Racer.installer new message preferNew).gives console slot) :
      Turn console (.installer new message preferNew) .ready slot (.done returned)
        [.installed new preferNew returned] (slotAfter slot new preferNew) 0
  | idle {c : Racer} {p : Phase} {slot : Option CatalogName} : Turn console c p slot p [] slot 0

section Turn

variable {s t : State}

theorem afterLook_of_no_rival (hrival : s.context.rival = none) : s.afterLook = s := by
  rw [State.afterLook, hrival]

/-- The state after an installation: the slot is looked at and written, and what is there is
reported. -/
theorem install_state (new : CatalogName) (message : Option String) (preferNew : Bool) :
    (install new message preferNew s).2 =
      if s.context.slot.isSome then ((installWrites s.context.slot new preferNew).foldl State.write
        s.afterLook).afterReport (alreadyNote message)
      else (installWrites s.context.slot new preferNew).foldl State.write s.afterLook := by
  rw [install, bind_run, look_run]
  cases s.context.slot with
  | none => rfl
  | some name =>
    show ((report (alreadyNote message) >>= fun _ => pure (some name)) _).2 = _
    rw [bind_run, report_run]
    generalize State.reported _ _ = r
    cases r <;> rfl

/-- Installing decides what is in the slot, and does nothing else that callers see. -/
theorem installed_place (hrival : s.context.rival = none) (new : CatalogName)
    (message : Option String) (preferNew : Bool) :
    (s.installed new message preferNew).context.slot = slotAfter s.context.slot new preferNew ∧
      (s.installed new message preferNew).context.rival = none ∧
      SameInputs s (s.installed new message preferNew) := by
  have hsame : SameInputs s (s.installed new message preferNew) :=
    (installed_comes new message preferNew s).inputs
  have hcontext : (s.installed new message preferNew).context =
      ((installWrites s.context.slot new preferNew).foldl State.write s).context := by
    rw [State.installed, install_state, afterLook_of_no_rival hrival]
    split <;> rfl
  rw [hcontext]
  cases hslot : s.context.slot with
  | none => exact ⟨rfl, hrival, hsame⟩
  | some name =>
    cases preferNew with
    | true => exact ⟨rfl, hrival, hsame⟩
    | false => exact ⟨hslot, hrival, hsame⟩

theorem replaced_place (hrival : s.context.rival = none) :
    s.replaced.context.slot = slotAfter s.context.slot s.catalogs.length true ∧
      s.replaced.context.rival = none ∧ SameInputs s s.replaced := by
  unfold State.replaced
  cases s.runs.hasRun with
  | true =>
    obtain ⟨hslot, hafter, hsame⟩ := installed_place
      (s := ((s.say [recreateNote]).make .empty).2) hrival s.catalogs.length _ true
    exact ⟨hslot, hafter, ((SameInputs.of_say s _).trans (SameInputs.of_make _ .empty)).trans hsame⟩
  | false =>
    obtain ⟨hslot, hafter, hsame⟩ := installed_place (s := (s.make .empty).2) hrival
      s.catalogs.length _ true
    exact ⟨hslot, hafter, (SameInputs.of_make s .empty).trans hsame⟩

/-- A turn of a caller takes a state without rivals to another one, and is noted for something. -/
structure Turned (c : Racer) (p : Phase) (s : State) (q : Phase) (events : List Event) (t : State)
    (n : Nat) : Prop where
  run : c.move p s = (.ok (q, events), t)
  turn : Turn s.around.console c p s.context.slot q events t.context.slot n
  console : t.around.console = s.around.console
  rival : t.context.rival = none
  runs : t.runs.value = s.runs.value + n
  callbacks : t.callbacks = s.callbacks

theorem populator_turn (hrival : s.context.rival = none) (needsInitial : Bool)
    (items : Option Catalog.Handover) (p : Phase) :
    ∃ q events t n, Turned (.populator needsInitial items) p s q events t n := by
  cases p with
  | ready =>
    have hlook := afterLook_of_no_rival hrival
    exact ⟨_, _, s, 0, congrArg (Prod.mk _) hlook, Turn.look, rfl, hrival, rfl, rfl⟩
  | saw seen =>
    cases seen with
    | none =>
      obtain ⟨hslot, hafter, hsame⟩ := replaced_place hrival
      refine ⟨_, _, _, 0, move_replaces s needsInitial items, ?_, hsame.console, hafter,
        congrArg RunCounter.value hsame.runs, hsame.callbacks⟩
      rw [hslot]
      exact Turn.replace
    | some name =>
      have hrun := move_keeps s needsInitial items name
      cases hrunning : s.runs.hasRun with
      | true =>
        rw [hrunning] at hrun
        exact ⟨_, _, s, 0, hrun, Turn.keep, rfl, hrival, rfl, rfl⟩
      | false =>
        rw [hrunning] at hrun
        exact ⟨_, _, s.say [repopulateNote], 0, hrun, Turn.keep, rfl, hrival, rfl, rfl⟩
  | counts name r => exact ⟨_, _, s.count, 1, rfl, Turn.finish, rfl, hrival, rfl, rfl⟩
  | runs name => exact ⟨_, _, s, 0, rfl, Turn.idle, rfl, hrival, rfl, rfl⟩
  | looks => exact ⟨_, _, s, 0, rfl, Turn.idle, rfl, hrival, rfl, rfl⟩
  | done r => exact ⟨_, _, s, 0, rfl, Turn.idle, rfl, hrival, rfl, rfl⟩

theorem asker_turn (hrival : s.context.rival = none) (p : Phase) :
    ∃ q events t n, Turned .asker p s q events t n := by
  have hlook := afterLook_of_no_rival hrival
  cases p with
  | ready =>
    have hrun := move_finds s
    rw [hlook] at hrun
    refine ⟨_, _, s, 0, hrun, ?_, rfl, hrival, rfl, rfl⟩
    cases s.context.slot with
    | none => exact Turn.miss
    | some name => exact Turn.find
  | saw seen =>
    have hrun := move_asks s seen
    obtain ⟨hslot, hafter, hsame⟩ := installed_place (s := (s.make .empty).2) hrival
      s.catalogs.length (some revertingMessage) false
    refine ⟨_, _, _, 0, hrun, ?_, hsame.console, hafter, congrArg RunCounter.value hsame.runs,
      hsame.callbacks⟩
    rw [hslot]
    show Turn _ _ _ _ _ _ (slotAfter s.context.slot s.catalogs.length false) _
    cases s.context.slot with
    | none => exact Turn.win
    | some other => exact Turn.lose
  | counts name r =>
    cases r with
    | ok u => exact ⟨_, _, s.count, 1, rfl, Turn.count, rfl, hrival, rfl, rfl⟩
    | error e => exact ⟨_, _, s.count, 1, rfl, Turn.fail, rfl, hrival, rfl, rfl⟩
  | looks => exact ⟨_, _, s, 0, congrArg (Prod.mk _) hlook, Turn.again, rfl, hrival, rfl, rfl⟩
  | runs name => exact ⟨_, _, s, 0, rfl, Turn.idle, rfl, hrival, rfl, rfl⟩
  | done r => exact ⟨_, _, s, 0, rfl, Turn.idle, rfl, hrival, rfl, rfl⟩

/-- **Every turn** succeeds, and does to the slot and to the count what `Turn` says. -/
theorem move_turn (hrival : s.context.rival = none) (c : Racer) (p : Phase) :
    ∃ q events t n, Turned c p s q events t n := by
  cases c with
  | populator needsInitial items => exact populator_turn hrival needsInitial items p
  | asker => exact asker_turn hrival p
  | installer new message preferNew =>
    cases p with
    | ready =>
      obtain ⟨hslot, hafter, hsame⟩ := installed_place hrival new message preferNew
      refine ⟨_, _, _, 0, move_installs s new message preferNew, ?_, hsame.console, hafter,
        congrArg RunCounter.value hsame.runs, hsame.callbacks⟩
      rw [hslot]
      exact Turn.install rfl
    | _ => exact ⟨_, _, s, 0, rfl, Turn.idle, rfl, hrival, rfl, rfl⟩

/-- What is known of a turn that was taken. -/
theorem turned_of_move {c : Racer} {p q : Phase} {events : List Event}
    (hrival : s.context.rival = none) (h : c.move p s = (.ok (q, events), t)) :
    ∃ n, Turned c p s q events t n := by
  obtain ⟨q', events', t', n, hturned⟩ := move_turn hrival c p
  obtain ⟨hanswer, rfl⟩ := Prod.mk.inj (hturned.run.symm.trans h)
  obtain ⟨rfl, rfl⟩ := Prod.mk.inj (Except.ok.inj hanswer)
  exact ⟨n, hturned⟩

end Turn

/-! ### What a pass does -/

/-- Nothing happened to the slot and the count since a state, and callbacks neither empty the slot
nor start passes. -/
structure Calm (s t : State) : Prop extends Untouched s t where
  callbacks : ∀ c ∈ t.callbacks, c.avoids [.clears, .populates, .asks] = true

section Calm

variable {s : State} {inner : Inner}

theorem calm_serves : Serves (Calm s) where
  say _ _ ht := ⟨⟨ht.slot, ht.rival, ht.runs, ht.console⟩, ht.callbacks⟩
  ask _ ht := ⟨⟨ht.slot, ht.rival, ht.runs, ht.console⟩, ht.callbacks⟩
  loader _ ht := ⟨⟨ht.slot, ht.rival, ht.runs, ht.console⟩, ht.callbacks⟩
  fetch _ _ ht := ⟨⟨ht.slot, ht.rival, ht.runs, ht.console⟩, ht.callbacks⟩
  setCatalog _ _ ht := ⟨⟨ht.slot, ht.rival, ht.runs, ht.console⟩, ht.callbacks⟩

theorem calm_allows : Allows (fun c => c.avoids [.clears, .populates, .asks] = true) (Calm s) where
  allowed ht := ht.callbacks
  callbacks ht hcs := ⟨⟨ht.slot, ht.rival, ht.runs, ht.console⟩, hcs⟩
  call _ ht := ⟨⟨ht.slot, ht.rival, ht.runs, ht.console⟩, ht.callbacks⟩

/-- A look finds no rival to let in. -/
theorem look_calm (hrival : s.context.rival = none) : Keeps (Calm s) look := fun t ht => by
  rw [look_run, afterLook_of_no_rival (ht.rival.trans hrival)]
  exact ht

theorem tellAll_calm (hrival : s.context.rival = none) : Keeps (Calm s) (tellAll inner) :=
  tellAll_keeps (avoids_closed _) calm_allows fun place c hc =>
    act_keeps (avoids_closed _) calm_allows (fun _ h => by cases h) (fun _ h => by cases h)
      (fun _ h => by cases h)
      (fun item _ _ => addToInstalled_keeps calm_serves (look_calm hrival) item) place hc

/-- **A pass**, if its callbacks neither empty the slot nor start passes, does nothing to the slot
and to the count. -/
theorem pass_calm (hrival : s.context.rival = none)
    (hcallbacks : ∀ c ∈ s.callbacks, c.avoids [.clears, .populates, .asks] = true)
    (name : CatalogName) (c : Racer) : Calm s (c.pass inner name s).2 := by
  have hcalm : Calm s s := ⟨⟨rfl, rfl, rfl, rfl⟩, hcallbacks⟩
  have hmode : Keeps (Calm s) applyLoadMode := fun t ht => by
    rw [applyLoadMode_run]
    exact ⟨⟨ht.slot, ht.rival, ht.runs, ht.console⟩, ht.callbacks⟩
  have hstages : ∀ needsInitial items,
      Keeps (Calm s) (stages inner name needsInitial items) :=
    stages_keep_of_tellAll calm_serves hmode (tellAll_calm hrival) name
  cases c with
  | populator needsInitial items => exact hstages needsInitial items s hcalm
  | asker => exact hstages true none s hcalm
  | installer new message preferNew => exact hcalm

end Calm

end ItemCatalog.Population
