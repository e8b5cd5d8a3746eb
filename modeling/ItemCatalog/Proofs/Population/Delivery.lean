import ItemCatalog.Proofs.Population.Actions
import ItemCatalog.Proofs.Population.Callers
import ItemCatalog.Proofs.Population.Session

/-! # Delivery: whether a call gives a catalog

A best effort, and a context that is asked for its catalog, read their answer from the slot, after a
pass if they run one. During the pass, callbacks write to the slot, and nested passes do. Once the
call has installed its catalog, no one else is about to install one, so that the slot holds what was
written to it last (`Tracked`). So the call gives no catalog exactly if it ran a pass that ended
well and in which the last write emptied the slot. Only a callback can write that: installing ends
with a catalog in the slot (`Held`).

* `passes_tracked`, `passes_held`: both invariants, for passes at any depth;
* `catalog_missing_iff`: the answer of a call, in any state and at any depth;
* `session_delivers`: sessions without callbacks that empty the slot. -/

namespace ItemCatalog.Population

open Step

/-! ### What was written last -/

/-- The slot holds what was written to it last, and no one else is about to install a catalog. -/
structure Tracked (s : State) : Prop where
  rival : s.context.rival = none
  last : s.trace.writes.getLast? = some s.context.slot

theorem tracked_write {s : State} (hrival : s.context.rival = none) (name : Option CatalogName) :
    Tracked (s.write name) :=
  ⟨hrival, List.getLast?_concat⟩

theorem tracked_installs : Installs Tracked where
  say _ hs := ⟨hs.rival, hs.last⟩
  look hs := by
    rw [afterLook_of_no_rival hs.rival]
    exact hs
  write name hs := tracked_write hs.rival name
  make hs := ⟨hs.rival, hs.last⟩
  count hs := ⟨hs.rival, hs.last⟩

theorem tracked_serves : Serves Tracked where
  say _ _ hs := ⟨hs.rival, hs.last⟩
  ask _ hs := ⟨hs.rival, hs.last⟩
  loader _ hs := ⟨hs.rival, hs.last⟩
  fetch _ _ hs := ⟨hs.rival, hs.last⟩
  setCatalog _ _ hs := ⟨hs.rival, hs.last⟩

theorem tracked_allows : Allows (fun _ => True) Tracked where
  allowed _ _ _ := trivial
  callbacks hs _ := ⟨hs.rival, hs.last⟩
  call _ hs := ⟨hs.rival, hs.last⟩

theorem applyLoadMode_tracked : Keeps Tracked applyLoadMode := fun s hs => by
  rw [applyLoadMode_run]
  exact ⟨hs.rival, hs.last⟩

/-- **Passes at any depth** leave in the slot what was written to it last. -/
theorem passes_tracked (depth : Nat) : InnerKeeps Tracked (passes depth) :=
  served_passes_keep any_closed tracked_allows tracked_serves tracked_installs.places
    applyLoadMode_tracked (fun _ _ _ hs => tracked_installs.write none hs) depth

theorem stages_tracked (depth : Nat) (name : CatalogName) (needsInitial : Bool)
    (items : Option Catalog.Handover) :
    Keeps Tracked (stages (passes depth) name needsInitial items) :=
  served_stages_keep any_closed tracked_allows tracked_serves (fun _ => tracked_installs.look)
    (fun _ _ _ hs => tracked_installs.write none hs) (passes_tracked depth) applyLoadMode_tracked
    name needsInitial items

/-! ### Callbacks that never empty the slot -/

/-- A catalog is installed, no one else is about to install one, and no callback empties the
slot. -/
structure Held (s : State) : Prop where
  slot : s.context.slot ≠ none
  rival : s.context.rival = none
  callbacks : ∀ c ∈ s.callbacks, c.avoids [.clears] = true

theorem held_places : Places Held where
  say _ _ hs := ⟨hs.slot, hs.rival, hs.callbacks⟩
  look hs := by
    rw [afterLook_of_no_rival hs.rival]
    exact hs
  place {s} message preferNew _ hs := by
    obtain ⟨hslot, hrival, hsame⟩ := installed_place (s := (s.make .empty).2) hs.rival
      s.catalogs.length message preferNew
    refine ⟨fun hnone => ?_, hrival, hsame.callbacks ▸ hs.callbacks⟩
    exact slotAfter_ne_none _ _ preferNew (hslot.symm.trans hnone)
  count hs := ⟨hs.slot, hs.rival, hs.callbacks⟩

theorem held_serves : Serves Held where
  say _ _ hs := ⟨hs.slot, hs.rival, hs.callbacks⟩
  ask _ hs := ⟨hs.slot, hs.rival, hs.callbacks⟩
  loader _ hs := ⟨hs.slot, hs.rival, hs.callbacks⟩
  fetch _ _ hs := ⟨hs.slot, hs.rival, hs.callbacks⟩
  setCatalog _ _ hs := ⟨hs.slot, hs.rival, hs.callbacks⟩

theorem held_allows : Allows (fun c => c.avoids [.clears] = true) Held where
  allowed hs := hs.callbacks
  callbacks hs hcs := ⟨hs.slot, hs.rival, hcs⟩
  call _ hs := ⟨hs.slot, hs.rival, hs.callbacks⟩

theorem applyLoadMode_held : Keeps Held applyLoadMode := fun s hs => by
  rw [applyLoadMode_run]
  exact ⟨hs.slot, hs.rival, hs.callbacks⟩

/-- **Passes at any depth** leave a catalog in the slot, if no callback empties it. -/
theorem passes_held (depth : Nat) : InnerKeeps Held (passes depth) :=
  served_passes_keep (avoids_closed _) held_allows held_serves held_places applyLoadMode_held
    (fun _ h => by cases h) depth

theorem stages_held (depth : Nat) (name : CatalogName) (needsInitial : Bool)
    (items : Option Catalog.Handover) :
    Keeps Held (stages (passes depth) name needsInitial items) :=
  served_stages_keep (avoids_closed _) held_allows held_serves (fun _ => held_places.look)
    (fun _ h => by cases h) (passes_held depth) applyLoadMode_held name needsInitial items

/-! ### Installing -/

section Calls

variable {inner : Inner} {s : State}

/-- After a look, no one is about to install a catalog. -/
theorem afterLook_rival (s : State) : s.afterLook.context.rival = none := by
  unfold State.afterLook
  cases hrival : s.context.rival with
  | none => exact hrival
  | some r => rfl

theorem installs_iff : s.installs = true ↔ s.context.slot = none ∧ s.context.rival = none := by
  rw [installs_eq, State.afterLook]
  cases hslot : s.context.slot <;> cases hrival : s.context.rival <;> simp [hslot]

/-- A call that installs its catalog writes it to the slot. -/
theorem early_of_installs (h : s.installs = true) :
    s.early.2 = (s.make .empty).2.write (some s.catalogs.length) := by
  obtain ⟨hslot, hrival⟩ := installs_iff.mp h
  have hmade : (s.make .empty).2.afterLook = (s.make .empty).2 := afterLook_of_no_rival hrival
  unfold State.early install
  rw [afterLook_of_no_rival hrival]
  have hempty : (s.make .empty).2.context.slot = none := hslot
  simp only [bind_run, look_run, hmade, modify_run, hempty]
  rfl

theorem early_tracked (h : s.installs = true) : Tracked s.early.2 := by
  have hrival : (s.make .empty).2.context.rival = none := (installs_iff.mp h).2
  rw [early_of_installs h]
  exact tracked_write hrival _

theorem early_held (h : s.installs = true)
    (hcallbacks : ∀ c ∈ s.callbacks, c.avoids [.clears] = true) : Held s.early.2 := by
  rw [early_of_installs h]
  exact ⟨nofun, (installs_iff.mp h).2, hcallbacks⟩

/-- A best effort that does not install its catalog finds another one. -/
theorem bestEffort_finds (h : s.installs = false) :
    ∃ name, (bestEffort inner s).1 = .ok (some name) := by
  cases hslot : s.context.slot with
  | some name => exact ⟨name, by rw [bestEffort_of_some hslot]⟩
  | none =>
    cases hlook : s.afterLook.context.slot with
    | none =>
      rw [installs_eq, hslot, hlook] at h
      cases h
    | some name =>
      refine ⟨name, ?_⟩
      obtain ⟨hplace, -, -⟩ := installed_place (s := (s.afterLook.make .empty).2)
        (afterLook_rival s) s.afterLook.catalogs.length (some revertingMessage) false
      have hkept : s.early.2.context.slot = some name := hplace.trans (by
        rw [show (s.afterLook.make .empty).2.context.slot = some name from hlook]
        rfl)
      rw [bestEffort_of_none hslot, hlook, look_run]
      exact congrArg Except.ok hkept

theorem afterLook_installs (hslot : s.context.slot = none) : s.afterLook.installs = s.installs := by
  rw [installs_eq, installs_eq, afterLook_of_no_rival (afterLook_rival s), hslot, Bool.and_self]
  rfl

/-! ### What a call gives -/

/-- A best effort that installs its catalog runs the stages on it, and then gives what is in the
slot. -/
theorem bestEffort_answer (h : s.installs = true) {t : State} {r : Except Fault Unit}
    (hrun : stages inner s.afterLook.catalogs.length true none s.early.2 = (r, t)) :
    (bestEffort inner s).1 = r.map (fun _ => t.context.slot) ∧
      (bestEffort inner s).2.trace = t.trace := by
  rw [bestEffort_of_installs h, bind_run, counted_run, hrun]
  cases r with
  | error e => exact ⟨rfl, rfl⟩
  | ok _ =>
    refine ⟨rfl, ?_⟩
    show t.count.afterLook.trace = t.trace
    unfold State.afterLook
    cases t.count.context.rival <;> rfl

/-- A context that is asked for its catalog has one, refuses, or makes a best effort. -/
theorem getCatalog_cases (inner : Inner) (s : State) :
    (∃ name, s.context.slot = some name ∧ (getCatalog inner s).1 = .ok (some name)) ∨
    (getCatalog inner s).1 = .error unavailable ∨
    (s.context.slot = none ∧ getCatalog inner s = bestEffort inner s.afterLook) := by
  cases hslot : s.context.slot with
  | some name => exact Or.inl ⟨name, rfl, by rw [getCatalog_of_some hslot]⟩
  | none =>
    rw [getCatalog_of_none hslot]
    cases s.afterLook.context.attached with
    | true => exact Or.inr (Or.inr ⟨rfl, rfl⟩)
    | false => exact Or.inr (Or.inl rfl)

end Calls

section Missing

variable (depth : Nat) (s : State)

/-- A call came to its end well, installed its catalog, and the last write emptied the slot. -/
def Emptied (p : Step (Option CatalogName)) (s : State) : Prop :=
  (∃ found, (p s).1 = .ok found) ∧ s.installs = true ∧ (p s).2.trace.writes.getLast? = some none

theorem bestEffort_missing_iff :
    (bestEffort (passes depth) s).1 = .ok none ↔ Emptied (bestEffort (passes depth)) s := by
  unfold Emptied
  cases hinstalls : s.installs with
  | false =>
    obtain ⟨name, hname⟩ : ∃ name, (bestEffort (passes depth) s).1 = .ok (some name) :=
      bestEffort_finds hinstalls
    rw [hname]
    exact iff_of_false nofun fun h => by cases h.2.1
  | true =>
    have hleft := stages_tracked depth s.afterLook.catalogs.length true none s.early.2
      (early_tracked hinstalls)
    rcases hrun : stages (passes depth) s.afterLook.catalogs.length true none s.early.2 with ⟨r, t⟩
    rw [hrun] at hleft
    obtain ⟨hanswer, htrace⟩ := bestEffort_answer hinstalls hrun
    rw [hanswer, htrace, hleft.last]
    cases r with
    | error e => exact iff_of_false nofun fun h => by cases h.1.choose_spec
    | ok _ =>
      constructor
      · intro h
        exact ⟨⟨_, h⟩, rfl, congrArg some (Except.ok.inj h)⟩
      · rintro ⟨-, -, h⟩
        exact congrArg Except.ok (Option.some.inj h)

theorem getCatalog_missing_iff :
    (getCatalog (passes depth) s).1 = .ok none ↔ Emptied (getCatalog (passes depth)) s := by
  unfold Emptied
  rcases getCatalog_cases (passes depth) s with ⟨name, hslot, hfound⟩ | hrefused | ⟨hslot, hbest⟩
  · rw [hfound]
    refine iff_of_false nofun ?_
    rintro ⟨-, hinstalls, -⟩
    rw [installs_iff, hslot] at hinstalls
    cases hinstalls.1
  · rw [hrefused]
    exact iff_of_false nofun fun h => by cases h.1.choose_spec
  · have hiff := bestEffort_missing_iff depth s.afterLook
    rw [Emptied, afterLook_installs hslot] at hiff
    rw [hbest]
    exact hiff

/-- Without callbacks that empty the slot, a best effort gives a catalog or fails. -/
theorem bestEffort_delivers (hcallbacks : ∀ c ∈ s.callbacks, c.avoids [.clears] = true) :
    (bestEffort (passes depth) s).1 ≠ .ok none := by
  intro hnone
  cases hinstalls : s.installs with
  | false =>
    obtain ⟨name, hname⟩ : ∃ name, (bestEffort (passes depth) s).1 = .ok (some name) :=
      bestEffort_finds hinstalls
    rw [hname] at hnone
    cases hnone
  | true =>
    have hleft := stages_held depth s.afterLook.catalogs.length true none s.early.2
      (early_held hinstalls hcallbacks)
    rcases hrun : stages (passes depth) s.afterLook.catalogs.length true none s.early.2 with ⟨r, t⟩
    rw [hrun] at hleft
    rw [(bestEffort_answer hinstalls hrun).1] at hnone
    cases r with
    | error e => cases hnone
    | ok _ => exact hleft.slot (Except.ok.inj hnone)

theorem getCatalog_delivers (hcallbacks : ∀ c ∈ s.callbacks, c.avoids [.clears] = true) :
    (getCatalog (passes depth) s).1 ≠ .ok none := by
  rcases getCatalog_cases (passes depth) s with ⟨name, -, hfound⟩ | hrefused | ⟨-, hbest⟩
  · rw [hfound]
    nofun
  · rw [hrefused]
    nofun
  · rw [hbest]
    exact bestEffort_delivers depth s.afterLook ((afterLook_inputs s).1.callbacks ▸ hcallbacks)

/-- **A call gives no catalog,** after whatever commands and in the middle of whatever pass, exactly
if it comes to its end well, has installed a catalog of its own, and the last write to the slot
emptied it. Then one of the callbacks is there to empty the slot, or to register one that does. -/
theorem catalog_missing_iff {p : Step (Option CatalogName)}
    (hp : p = bestEffort (passes depth) ∨ p = getCatalog (passes depth)) :
    ((p s).1 = .ok none ↔ (∃ found, (p s).1 = .ok found) ∧ s.installs = true ∧
      (p s).2.trace.writes.getLast? = some none) ∧
    ((p s).1 = .ok none → ∃ c ∈ s.callbacks, c.avoids [.clears] = false) := by
  refine ⟨?_, fun hnone => ?_⟩
  · rcases hp with rfl | rfl
    · exact bestEffort_missing_iff depth s
    · exact getCatalog_missing_iff depth s
  · by_contra hspared
    have hcallbacks : ∀ c ∈ s.callbacks, c.avoids [.clears] = true := fun c hc =>
      Bool.of_not_eq_false fun h => hspared ⟨c, hc, h⟩
    rcases hp with rfl | rfl
    · exact bestEffort_delivers depth s hcallbacks hnone
    · exact getCatalog_delivers depth s hcallbacks hnone

end Missing

/-- A state in which no source may be read, with a callback that empties the slot once. -/
def clearingState : State where
  context := { attached := true }
  settings := { disallowLocal := true }
  callbacks := [.clears 1]

theorem catalog_missing_of_clearing :
    (bestEffort (passes 1) clearingState).2.trace.writes.getLast? = some none ∧
      clearingState.installs = true ∧
      ∃ c ∈ clearingState.callbacks, c.avoids [.clears] = false := by
  obtain ⟨hiff, hclears⟩ := catalog_missing_iff 1 clearingState (Or.inl rfl)
  have hnone : (bestEffort (passes 1) clearingState).1 = .ok none := by rfl
  obtain ⟨-, hinstalls, hlast⟩ := hiff.mp hnone
  exact ⟨hlast, hinstalls, hclears hnone⟩

/-- The call that runs the pass gives no catalog, and no fault. -/
theorem clearing_callback_leaves_no_catalog :
    (nested bestEffort clearingState).1 = .ok none ∧
      (nested getCatalog clearingState).1 = .ok none := by
  exact ⟨rfl, rfl⟩

/-! ### Sessions -/

/-- No callback empties the slot. -/
def Spared (s : State) : Prop :=
  ∀ c ∈ s.callbacks, c.avoids [.clears] = true

theorem spared_installs : Installs Spared where
  say _ hs := hs
  look {s} hs := by
    rw [Spared, (afterLook_inputs s).1.callbacks]
    exact hs
  write _ hs := hs
  make hs := hs
  count hs := hs

theorem spared_serves : Serves Spared where
  say _ _ hs := hs
  ask _ hs := hs
  loader _ hs := hs
  fetch _ _ hs := hs
  setCatalog _ _ hs := hs

theorem spared_allows : Allows (fun c => c.avoids [.clears] = true) Spared where
  allowed hs := hs
  callbacks _ hcs := hcs
  call _ hs := hs

theorem applyLoadMode_spared : Keeps Spared applyLoadMode := fun s hs => by
  rw [applyLoadMode_run]
  exact hs

theorem command_spared (c : Command) {s : State} (hs : Spared s) : Spared (c.run s).2 :=
  command_keeps (avoids_closed _) spared_allows spared_serves spared_installs.places
    applyLoadMode_spared (fun _ h => by cases h) hs
    (fun new message preferNew _ => install_keeps spared_installs new message preferNew s hs)
    fun _ _ => hs

theorem session_spared (commands : List Command) {s : State} (hs : Spared s) :
    Spared (session commands s).2 := by
  induction commands generalizing s with
  | nil => exact hs
  | cons c rest ih => exact ih (command_spared c hs)

/-- **Without callbacks that empty the slot,** after any commands, a best effort and a context that
is asked for its catalog give one or fail. -/
theorem session_delivers (first : List Command) {s : State} (hs : Spared s) {c : Command}
    (hc : c = .bestEffort ∨ c = .getCatalog) :
    (c.run (session first s).2).1 ≠ .slot (.ok none) := by
  have hspared := session_spared first hs
  generalize (session first s).2 = t at hspared ⊢
  intro hnone
  rcases hc with rfl | rfl
  · rw [Command.run, answer, nested_run] at hnone
    exact bestEffort_delivers _ t hspared (Answer.slot.inj hnone)
  · rw [Command.run, answer, nested_run] at hnone
    exact getCatalog_delivers _ t hspared (Answer.slot.inj hnone)

end ItemCatalog.Population
