import ItemCatalog.Proofs.Population.Weights

/-! # Actions: what callbacks do during a pass

The stages of a pass come in two parts: what is done before the callbacks are told, and telling
them. An action of a callback is a row of single ones (`act_row`): which of them are taken depends
on how the others end (`takenBy`). `actionsFrom` lists the single actions that callbacks take while
they are told, each with the state in which it is taken. A best effort runs the stages if it
installs its catalog, and only then. -/

namespace ItemCatalog.Population

open Step

/-! ### The stages before the callbacks -/

/-- The stages before the initial load. -/
def beforeInitial (name : CatalogName) (items : Option Catalog.Handover) : Step Unit := do
  applyLoadMode
  match items with
  | some items => resetTo name items
  | none => pure ()

/-- The stages before the additions. -/
def beforeAdditions (name : CatalogName) (needsInitial : Bool) (items : Option Catalog.Handover) :
    Step Unit := do
  beforeInitial name items
  if needsInitial then discard (populateInitial name)

/-- The stages before the callbacks are told. -/
def beforeTelling (name : CatalogName) (needsInitial : Bool) (items : Option Catalog.Handover) :
    Step Unit := do
  beforeAdditions name needsInitial items
  discard (populateAdditions name)

theorem stages_eq_bind (inner : Inner) (name : CatalogName) (needsInitial : Bool)
    (items : Option Catalog.Handover) : stages inner name needsInitial items =
      beforeTelling name needsInitial items >>= fun _ => tellAll inner := by
  unfold stages beforeTelling beforeAdditions beforeInitial
  -- The parts are the same, only nested to the left.
  cases items <;> cases needsInitial <;> simp only [bind_assoc, pure_bind, if_true] <;> rfl

section Keeps

variable {I : State → Prop} (hI : Serves I) (hmode : Keeps I applyLoadMode)
include hI hmode

theorem beforeInitial_keeps (name : CatalogName) (items : Option Catalog.Handover) :
    Keeps I (beforeInitial name items) := by
  refine hmode.bind fun _ => ?_
  cases items with
  | none => exact Keeps.pure ()
  | some items => exact resetTo_keeps hI name items

theorem beforeAdditions_keeps (name : CatalogName) (needsInitial : Bool)
    (items : Option Catalog.Handover) : Keeps I (beforeAdditions name needsInitial items) :=
  (beforeInitial_keeps hI hmode name items).bind fun _ =>
    Keeps.ite (populateInitial_keeps hI name).discard (Keeps.pure ())

theorem beforeTelling_keeps (name : CatalogName) (needsInitial : Bool)
    (items : Option Catalog.Handover) : Keeps I (beforeTelling name needsInitial items) :=
  (beforeAdditions_keeps hI hmode name needsInitial items).bind fun _ =>
    (populateAdditions_keeps hI name).discard

end Keeps

theorem beforeTelling_light {w : Nat} (name : CatalogName) (needsInitial : Bool)
    (items : Option Catalog.Handover) : Keeps (Light w) (beforeTelling name needsInitial items) :=
  beforeTelling_keeps light_serves applyLoadMode_light name needsInitial items

/-! ### Actions -/

/-- A single action that the callback of a place takes, in a state in which it was told and has one
time less to go. -/
structure Taken where
  place : Nat
  action : Callback
  state : State

/-- What a single action gives and leaves. -/
def Taken.run (d : Taken) (inner : Inner) : Except Fault Unit × State :=
  act inner d.place d.action d.state

/-- The single actions of an action: the second part of one that is put together comes after the
first, or in its place, if that ends so. -/
def takenBy (inner : Inner) (place : Nat) : Callback → State → List Taken
  | .quiet, _ => []
  | .both c d, s =>
    takenBy inner place c s ++
      match act inner place c s with
      | (.ok _, t) => takenBy inner place d t
      | (.error _, _) => []
  | .recovers c d, s =>
    takenBy inner place c s ++
      match act inner place c s with
      | (.ok _, _) => []
      | (.error e, t) => if e.isFatal then [] else takenBy inner place d t
  | .turns 0 _ d, s => takenBy inner place d s
  | .turns (_ + 1) c _, s => takenBy inner place c s
  | action, s => [⟨place, action, s⟩]

/-- The single actions that telling a callback leads to. -/
def takenAt (inner : Inner) (place : Nat) (c : Callback) (s : State) : List Taken :=
  takenBy inner place c.turn.1 (s.told place c.turn.2)

/-- The actions that callbacks take while they are told, from a place on and at most `count` of
them: after a failure no callback is told any more. -/
def actionsFrom (inner : Inner) : Nat → Nat → State → List Taken
  | 0, _, _ => []
  | count + 1, place, s =>
    match s.callbacks[place]? with
    | none => []
    | some c =>
      takenAt inner place c s ++
        match tell inner place c s with
        | (.ok _, t) => actionsFrom inner count (place + 1) t
        | (.error _, _) => []

/-- The actions that callbacks take while all of them are told. -/
def State.actions (s : State) (inner : Inner) : List Taken :=
  actionsFrom inner (s.callbacks.length + totalWeight s.callbacks) 0 s

/-- The actions that callbacks take during the stages of a pass. -/
def stagesActions (inner : Inner) (name : CatalogName) (needsInitial : Bool)
    (items : Option Catalog.Handover) (s : State) : List Taken :=
  match beforeTelling name needsInitial items s with
  | (.ok _, t) => t.actions inner
  | (.error _, _) => []

/-! ### Rows of single actions -/

/-- Single actions, each of them in the state that the one before leaves, take a state to another
one. -/
inductive Row (inner : Inner) : State → List Taken → State → Prop
  | nil (s : State) : Row inner s [] s
  | cons {d : Taken} {ds : List Taken} {v : State} (hsingle : d.action.kind ≠ .composite)
      (hrest : Row inner (d.run inner).2 ds v) : Row inner d.state (d :: ds) v

namespace Row

variable {inner : Inner} {s t v : State} {ds ds' : List Taken}

theorem append (h : Row inner s ds t) (h' : Row inner t ds' v) : Row inner s (ds ++ ds') v := by
  induction h with
  | nil s => exact h'
  | cons hsingle _ ih => exact .cons hsingle (ih h')

theorem single (place : Nat) {action : Callback} (hsingle : action.kind ≠ .composite) (s : State) :
    Row inner s [⟨place, action, s⟩] (act inner place action s).2 :=
  .cons (d := ⟨place, action, s⟩) hsingle (.nil _)

end Row

section Acting

variable {inner : Inner} {place : Nat} {c d : Callback} {s : State}

/-- What comes of two actions, the second of which follows the first or does not: their single
actions, and what they give and leave. After a fault that no stage may record nothing follows. -/
inductive Follows (inner : Inner) (place : Nat) (c d : Callback) (s : State) :
    List Taken → Except Fault Unit × State → Prop
  | first : Follows inner place c d s (takenBy inner place c s) (act inner place c s)
  | second (h : ∀ e t, act inner place c s = (.error e, t) → e.isFatal = false) :
      Follows inner place c d s
        (takenBy inner place c s ++ takenBy inner place d (act inner place c s).2)
        (act inner place d (act inner place c s).2)

theorem both_follows (c d : Callback) (s : State) : Follows inner place c d s
    (takenBy inner place (.both c d) s) (act inner place (.both c d) s) := by
  rw [act, bind_run, takenBy]
  rcases h : act inner place c s with ⟨e | _, t⟩
  · simp only [List.append_nil]
    rw [← h]
    exact .first
  · have hsecond := Follows.second (d := d) fun e u he => by cases h.symm.trans he
    rwa [h] at hsecond

theorem recovers_follows (c d : Callback) (s : State) : Follows inner place c d s
    (takenBy inner place (.recovers c d) s) (act inner place (.recovers c d) s) := by
  rw [act, takenBy]
  rcases h : act inner place c s with ⟨e | _, t⟩
  · cases he : e.isFatal with
    | true =>
      simp only [recover_of_fatal h he, he, if_true, List.append_nil]
      rw [← h]
      exact .first
    | false =>
      have hsecond := Follows.second (d := d) fun e' u he' => by
        cases h.symm.trans he'
        exact he
      rw [h] at hsecond
      simpa only [recover_of_ordinary h he, he, Bool.false_eq_true, if_false] using hsecond
  · simp only [recover_of_ok h, List.append_nil]
    rw [← h]
    exact .first

namespace Follows

variable {ds : List Taken} {r : Except Fault Unit × State} (h : Follows inner place c d s ds r)
include h

theorem row (hc : ∀ s, Row inner s (takenBy inner place c s) (act inner place c s).2)
    (hd : ∀ s, Row inner s (takenBy inner place d s) (act inner place d s).2) :
    Row inner s ds r.2 := by
  cases h with
  | first => exact hc s
  | second => exact (hc s).append (hd _)

theorem pays {I : Nat → State → Prop} (hI : Pays I) (hin : InnerPays I inner) {k : Nat} {a : Taken}
    (hc : ∀ {k s}, I (c.cost + k) s → a ∈ takenBy inner place c s → I a.action.cost a.state)
    (hd : ∀ {k s}, I (d.cost + k) s → a ∈ takenBy inner place d s → I a.action.cost a.state)
    (hs : I (c.cost + d.cost + k) s) (ha : a ∈ ds) : I a.action.cost a.state := by
  have hfirst : I (c.cost + (d.cost + k)) s := Nat.add_assoc _ _ k ▸ hs
  cases h with
  | first => exact hc hfirst ha
  | second =>
    rcases List.mem_append.mp ha with ha | ha
    · exact hc hfirst ha
    · exact hd (act_pays hI hin place hfirst) ha

theorem of_mem {e : Fault} (he : e.isFatal = true) {t : State} {a : Taken}
    (hc : ∀ {s}, a ∈ takenBy inner place c s → act inner place c s = (.error e, t))
    (hd : ∀ {s}, a ∈ takenBy inner place d s → act inner place d s = (.error e, t))
    (ha : a ∈ ds) : r = (.error e, t) := by
  cases h with
  | first => exact hc ha
  | second hordinary =>
    rcases List.mem_append.mp ha with ha | ha
    · rw [hordinary e t (hc ha)] at he
      cases he
    · exact hd ha

end Follows

/-- **An action** is a row of single ones, by induction on what it is put together from. -/
theorem act_row (action : Callback) (s : State) :
    Row inner s (takenBy inner place action s) (act inner place action s).2 := by
  induction action generalizing s with
  | quiet => exact .nil s
  | fails | populates | asks | clears | adds | registers =>
    exact .single place Callback.Kind.noConfusion s
  | both c d ihc ihd => exact (both_follows c d s).row ihc ihd
  | recovers c d ihc ihd => exact (recovers_follows c d s).row ihc ihd
  | turns n c d ihc ihd =>
    cases n with
    | zero => exact ihd s
    | succ n => exact ihc s

/-- **Every single action** is taken in a state of which an invariant holds with what it costs, by
induction on the action that it belongs to. -/
theorem mem_takenBy_pays {I : Nat → State → Prop} (hI : Pays I) (hin : InnerPays I inner)
    {action : Callback} {k : Nat} (hs : I (action.cost + k) s) {a : Taken}
    (ha : a ∈ takenBy inner place action s) : I a.action.cost a.state := by
  induction action generalizing k s with
  | quiet => cases ha
  | fails | populates | asks | clears | adds | registers =>
    cases List.mem_singleton.mp ha
    exact hI.unspent (Nat.add_comm _ k ▸ hs)
  | both c d ihc ihd => exact (both_follows c d s).pays hI hin ihc ihd hs ha
  | recovers c d ihc ihd => exact (recovers_follows c d s).pays hI hin ihc ihd hs ha
  | turns n c d ihc ihd =>
    cases n with
    | zero => exact ihd hs ha
    | succ n => exact ihc hs ha

/-- **A fatal fault** of a single action ends the action that it belongs to. -/
theorem act_of_taken {e : Fault} (he : e.isFatal = true) {action : Callback} {t : State}
    {a : Taken} (ha : a ∈ takenBy inner place action s) (h : a.run inner = (.error e, t)) :
    act inner place action s = (.error e, t) := by
  induction action generalizing s with
  | quiet => cases ha
  | fails | populates | asks | clears | adds | registers =>
    cases List.mem_singleton.mp ha
    exact h
  | both c d ihc ihd => exact (both_follows c d s).of_mem he ihc ihd ha
  | recovers c d ihc ihd => exact (recovers_follows c d s).of_mem he ihc ihd ha
  | turns n c d ihc ihd =>
    cases n with
    | zero => exact ihd ha
    | succ n => exact ihc ha

end Acting

/-! ### Telling callbacks -/

section Telling

variable {inner : Inner} {s : State} {count place : Nat}

theorem tell_row (inner : Inner) (place : Nat) (c : Callback) (s : State) :
    Row inner (s.told place c.turn.2) (takenAt inner place c s) (tell inner place c s).2 :=
  act_row c.turn.1 (s.told place c.turn.2)

theorem tellFrom_of_none (hplace : s.callbacks[place]? = none) (count : Nat) :
    tellFrom inner (count + 1) place s = (.ok (), s) := by
  rw [tellFrom, bind_run, get_run]
  simp only [hplace]
  rfl

theorem tellFrom_of_some {c : Callback} (hplace : s.callbacks[place]? = some c) (count : Nat) :
    tellFrom inner (count + 1) place s =
      (tell inner place c >>= fun _ => tellFrom inner count (place + 1)) s := by
  rw [tellFrom, bind_run, get_run]
  simp only [hplace]

theorem actionsFrom_of_error {c : Callback} {e : Fault} {t : State}
    (hplace : s.callbacks[place]? = some c) (htell : tell inner place c s = (.error e, t))
    (count : Nat) : actionsFrom inner (count + 1) place s = takenAt inner place c s := by
  simp only [actionsFrom, hplace, htell, List.append_nil]

theorem actionsFrom_of_ok {c : Callback} {t : State} (hplace : s.callbacks[place]? = some c)
    (htell : tell inner place c s = (.ok (), t)) (count : Nat) :
    actionsFrom inner (count + 1) place s =
      takenAt inner place c s ++ actionsFrom inner count (place + 1) t := by
  simp only [actionsFrom, hplace, htell]

/-- **Every action** is taken in a state of which an invariant holds with what the action costs, by
induction on how many callbacks are told. -/
theorem mem_actionsFrom_pays {I : Nat → State → Prop} (hI : Pays I) (hin : InnerPays I inner)
    (hs : I 0 s) {d : Taken} (hd : d ∈ actionsFrom inner count place s) :
    I d.action.cost d.state := by
  induction count generalizing place s with
  | zero => cases hd
  | succ count ih =>
    rw [actionsFrom] at hd
    cases hplace : s.callbacks[place]? with
    | none =>
      rw [hplace] at hd
      cases hd
    | some c =>
      rw [hplace] at hd
      rcases List.mem_append.mp hd with hfirst | hrest
      · exact mem_takenBy_pays hI hin (hI.told hplace hs) hfirst
      · have htold := tell_pays hI hin hplace hs
        rcases htell : tell inner place c s with ⟨e | _, t⟩ <;> rw [htell] at hrest htold
        · cases hrest
        · exact ih htold hrest

theorem mem_stagesActions_pays {I : Nat → State → Prop} (hI : Pays I)
    (hin : InnerPays I inner) (hs : I 0 s) {name : CatalogName} {needsInitial : Bool}
    {items : Option Catalog.Handover} {d : Taken}
    (hd : d ∈ stagesActions inner name needsInitial items s) : I d.action.cost d.state := by
  have hbefore := beforeTelling_keeps (hI.serves 0) (hI.mode 0) name needsInitial items s hs
  unfold stagesActions at hd
  rcases hrun : beforeTelling name needsInitial items s with ⟨e | _, t⟩ <;>
    rw [hrun] at hd hbefore
  · cases hd
  · exact mem_actionsFrom_pays hI hin hbefore hd

/-- Every action is paid for when it is taken. -/
theorem mem_actionsFrom_weight {w : Nat} (hin : InnerPays (Payable w) inner) (hs : Light w s)
    {d : Taken} (hd : d ∈ actionsFrom inner count place s) :
    totalWeight d.state.callbacks + d.action.cost ≤ w :=
  mem_actionsFrom_pays (payable_pays w) hin hs hd

theorem mem_stagesActions_weight {w : Nat} (hin : InnerPays (Payable w) inner) (hs : Light w s)
    {name : CatalogName} {needsInitial : Bool} {items : Option Catalog.Handover} {d : Taken}
    (hd : d ∈ stagesActions inner name needsInitial items s) :
    totalWeight d.state.callbacks + d.action.cost ≤ w :=
  mem_stagesActions_pays (payable_pays w) hin hs hd

end Telling

/-! ### Best efforts -/

/-- What the attempt to install a new catalog gives and leaves, after a look at an empty slot. -/
def State.early (s : State) : Except Fault (Option CatalogName) × State :=
  install s.afterLook.catalogs.length (some revertingMessage) false (s.afterLook.make .empty).2

/-- Whether a best effort installs its catalog: it finds the slot empty, and so does the attempt to
install. -/
def State.installs (s : State) : Bool :=
  match s.context.slot, s.early.1 with
  | none, .ok none => true
  | _, _ => false

section BestEffort

variable {inner : Inner} {s : State}

theorem early_result (s : State) : s.early.1 = .ok s.afterLook.context.slot :=
  (install_comes _ reverting_isPlain _ _).result_eq

theorem early_inputs (s : State) : SameInputs s s.early.2 := by
  have hmade : SameInputs s.afterLook (s.afterLook.make .empty).2 :=
    ⟨rfl, rfl, rfl, rfl, rfl, rfl, rfl⟩
  exact ((afterLook_inputs s).1.trans hmade).trans (install_comes _ reverting_isPlain _ _).inputs

theorem installs_eq (s : State) :
    s.installs = (s.context.slot.isNone && s.afterLook.context.slot.isNone) := by
  rw [State.installs, early_result]
  cases s.context.slot <;> cases s.afterLook.context.slot <;> rfl

theorem bestEffort_of_some {name : CatalogName} (hslot : s.context.slot = some name) :
    bestEffort inner s = (.ok (some name), s.afterLook) := by
  unfold bestEffort
  rw [bind_run, look_run, hslot]
  rfl

theorem bestEffort_of_none (hslot : s.context.slot = none) : bestEffort inner s =
    (if s.afterLook.context.slot.isNone then
      (counted (stages inner s.afterLook.catalogs.length true none) >>= fun _ => look) s.early.2
    else look s.early.2) := by
  have hrun : bestEffort inner s = (install s.afterLook.catalogs.length (some revertingMessage)
      false >>= fun previous =>
        if previous.isNone then
          counted (stages inner s.afterLook.catalogs.length true none) >>= fun _ => look
        else look) (s.afterLook.make .empty).2 := by
    unfold bestEffort
    rw [bind_run, look_run, hslot]
    rfl
  rw [hrun, bind_of_ok (install_comes _ reverting_isPlain _ _).result_eq]
  show (if s.afterLook.context.slot.isNone then
    counted (stages inner s.afterLook.catalogs.length true none) >>= fun _ => look
    else look) s.early.2 = _
  split <;> rfl

/-- **An installed best effort** is the stages on a new catalog, and is counted. -/
theorem bestEffort_of_installs (h : s.installs = true) : bestEffort inner s =
    (counted (stages inner s.afterLook.catalogs.length true none) >>= fun _ => look) s.early.2 := by
  rw [installs_eq, Bool.and_eq_true_iff] at h
  obtain ⟨hslot, hlook⟩ := h
  rw [bestEffort_of_none (Option.isNone_iff_eq_none.mp hslot), if_pos hlook]

/-- Without an installation there are no stages. -/
theorem bestEffort_of_not_installs (h : s.installs = false) :
    SameInputs s (bestEffort inner s).2 := by
  cases hslot : s.context.slot with
  | some name =>
    rw [bestEffort_of_some hslot]
    exact (afterLook_inputs s).1
  | none =>
    have hlook : s.afterLook.context.slot.isNone = false := by
      rw [installs_eq, hslot] at h
      exact h
    rw [bestEffort_of_none hslot, hlook]
    exact (early_inputs s).trans (look_comes _).inputs

theorem getCatalog_of_some {name : CatalogName} (hslot : s.context.slot = some name) :
    getCatalog inner s = (.ok (some name), s.afterLook) := by
  unfold getCatalog
  rw [bind_run, look_run, hslot]
  rfl

theorem getCatalog_of_none (hslot : s.context.slot = none) : getCatalog inner s =
    (if s.afterLook.context.attached then bestEffort inner else throw unavailable) s.afterLook := by
  unfold getCatalog
  rw [bind_run, look_run, hslot]
  rfl

end BestEffort

end ItemCatalog.Population
