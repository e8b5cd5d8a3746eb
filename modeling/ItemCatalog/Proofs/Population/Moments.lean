import ItemCatalog.Proofs.Population.Actions
import ItemCatalog.Proofs.Population.Session

/-! # Moments: the course of a session

A session is followed from one moment to the next: the load mode is applied, the source of the
initial catalog is looked for, the additions are considered, callbacks act, and passes and commands
end. Every moment shows the state at that time, and those of passes inside other passes stand where
they happen.

* `Lasts`: an invariant that all that happens during passes keeps, as far as callbacks take no other
  actions than those of a class;
* `Lasts.passes_leads`: such an invariant holds at every moment of nested passes and at their ends,
  by induction on the depth;
* `Command.runs`: a command runs at most one pass that is not nested, and from the load mode of this
  one on the invariant holds;
* `sessionMoments_able`: passes can be nested as deep as callbacks make them. -/

namespace ItemCatalog.Population

open Step

/-! ### Moments -/

/-- What happens at a moment: the load mode is about to be applied, the source of the initial
catalog to be looked for, or the additions to be considered; the callback of a place is about to
take an action, where passes can be nested so deep; or a pass or a command has ended. -/
inductive Happening where
  | mode
  | initial
  | additions
  | acts (depth place : Nat) (action : Callback)
  | ends

/-- A moment of a session: the catalog of the innermost pass around, if there is one, what happens,
and the state at that time. -/
structure Moment where
  pass : Option CatalogName
  event : Happening
  state : State

/-- The moments of the passes that callbacks start, by the state in which they are started. -/
structure InnerMoments where
  populate : State → List Moment
  ask : State → List Moment

/-- The moment after some stages of a pass, if they come to their end. -/
def reached (name : CatalogName) (event : Happening) : Except Fault Unit × State → List Moment
  | (.ok _, t) => [⟨some name, event, t⟩]
  | (.error _, _) => []

theorem mem_reached {name : CatalogName} {event : Happening} {r : Except Fault Unit × State}
    {m : Moment} (hm : m ∈ reached name event r) : m = ⟨some name, event, r.2⟩ := by
  rcases r with ⟨e | _, t⟩
  · cases hm
  · exact List.mem_singleton.mp hm

section Moments

variable (depth : Nat) (course : InnerMoments)

/-- The moments of an action. -/
def Taken.moments (pass : Option CatalogName) (d : Taken) : List Moment :=
  ⟨pass, .acts depth d.place d.action, d.state⟩ ::
    match d.action with
    | .populates _ => course.populate d.state
    | .asks _ => course.ask d.state
    | _ => []

/-- The moments of the stages after the load mode. -/
def workMoments (name : CatalogName) (needsInitial : Bool) (items : Option Catalog.Handover)
    (s : State) : List Moment :=
  (if needsInitial then reached name .initial (beforeInitial name items s) else []) ++
    (reached name .additions (beforeAdditions name needsInitial items s) ++
      (stagesActions (passes depth) name needsInitial items s).flatMap
        (Taken.moments depth course (some name)))

/-- The moments of the stages of a pass. -/
def stagesMoments (name : CatalogName) (needsInitial : Bool) (items : Option Catalog.Handover)
    (s : State) : List Moment :=
  ⟨some name, .mode, s⟩ :: workMoments depth course name needsInitial items s

/-- The moments of a pass. -/
def populateMoments (needsInitial : Bool) (items : Option Catalog.Handover) (s : State) :
    List Moment :=
  stagesMoments depth course s.targetName needsInitial items (target s).2 ++
    [⟨some s.targetName, .ends, (populateCatalog (passes depth) needsInitial items s).2⟩]

/-- The moments of a best effort. -/
def bestEffortMoments (s : State) : List Moment :=
  if s.installs then
    stagesMoments depth course s.afterLook.catalogs.length true none s.early.2 ++
      [⟨some s.afterLook.catalogs.length, .ends, (bestEffort (passes depth) s).2⟩]
  else []

/-- The moments of asking a context for its catalog. -/
def getCatalogMoments (s : State) : List Moment :=
  if s.context.slot.isNone && s.afterLook.context.attached then
    bestEffortMoments depth course s.afterLook
  else []

end Moments

/-- The moments of the passes that callbacks can start. -/
def passesMoments : Nat → InnerMoments
  | 0 => ⟨fun _ => [], fun _ => []⟩
  | depth + 1 =>
    ⟨populateMoments depth (passesMoments depth) true none,
      getCatalogMoments depth (passesMoments depth)⟩

/-- The moments of a command, the last of them its end. -/
def Command.moments (c : Command) (s : State) : List Moment :=
  let depth := totalWeight s.callbacks
  let course := passesMoments depth
  (match c with
    | .populate needsInitial items => populateMoments depth course needsInitial items s
    | .bestEffort => bestEffortMoments depth course s
    | .getCatalog => getCatalogMoments depth course s
    | .applyLoadMode => [⟨none, .mode, s⟩]
    | .populateInitial _ => [⟨none, .initial, s⟩]
    | .populateAdditions _ => [⟨none, .additions, s⟩]
    | .tell => (s.actions (passes depth)).flatMap (Taken.moments depth course none)
    | _ => []) ++ [⟨none, .ends, (c.run s).2⟩]

/-- **The moments** of commands, one after the other. -/
def sessionMoments : List Command → State → List Moment
  | [], _ => []
  | c :: rest, s => c.moments s ++ sessionMoments rest (c.run s).2

theorem sessionMoments_append (first rest : List Command) (s : State) :
    sessionMoments (first ++ rest) s =
      sessionMoments first s ++ sessionMoments rest (session first s).2 := by
  induction first generalizing s with
  | nil => rfl
  | cons c first ih =>
    rw [List.cons_append, sessionMoments, ih, sessionMoments, session, List.append_assoc]

/-! ### What moments show -/

/-- At a moment at which a callback acts, its action is of a class. -/
def Moment.Takes (D : Callback → Prop) (m : Moment) : Prop :=
  ∀ depth place action, m.event = .acts depth place action → D action

instance Moment.decidableTakes {D : Callback → Prop} [DecidablePred D] (m : Moment) :
    Decidable (m.Takes D) :=
  match hevent : m.event with
  | .acts depth place action =>
    decidable_of_iff (D action) ⟨fun h _ _ _ h' => by
      rw [hevent] at h'
      cases h'
      exact h, fun h => h depth place action hevent⟩
  | .mode => isTrue fun _ _ _ h' => by cases hevent.symm.trans h'
  | .initial => isTrue fun _ _ _ h' => by cases hevent.symm.trans h'
  | .additions => isTrue fun _ _ _ h' => by cases hevent.symm.trans h'
  | .ends => isTrue fun _ _ _ h' => by cases hevent.symm.trans h'

/-- At a moment inside a pass an invariant holds, and the pass is about one of some catalogs. -/
structure Moment.Shows (I : State → Prop) (N : CatalogName → Prop) (m : Moment) : Prop where
  state : I m.state
  pass : ∃ name, m.pass = some name ∧ N name

/-- Moments lead to something: if callbacks take no other actions than those of a class, it comes to
that, and an invariant holds at all of the moments. -/
def Leads (D : Callback → Prop) (I : State → Prop) (N : CatalogName → Prop) (ms : List Moment)
    (P : Prop) : Prop :=
  (∀ m ∈ ms, m.Takes D) → P ∧ ∀ m ∈ ms, m.Shows I N

namespace Leads

variable {D : Callback → Prop} {I : State → Prop} {N : CatalogName → Prop}
  {ms ms' : List Moment} {P Q : Prop} {name : CatalogName} {s v : State}

theorem of_shows (hP : P) (hms : ∀ m ∈ ms, m.Shows I N) : Leads D I N ms P := fun _ => ⟨hP, hms⟩

theorem nil (hP : P) : Leads D I N [] P := of_shows hP (List.forall_mem_nil _)

theorem mono (h : Leads D I N ms P) (hPQ : P → Q) : Leads D I N ms Q := fun htakes =>
  ⟨hPQ (h htakes).1, (h htakes).2⟩

theorem append (h : Leads D I N ms P) (h' : P → Leads D I N ms' Q) :
    Leads D I N (ms ++ ms') Q := by
  intro htakes
  obtain ⟨hfirst, hsecond⟩ := List.forall_mem_append.mp htakes
  obtain ⟨hP, hms⟩ := h hfirst
  obtain ⟨hQ, hms'⟩ := h' hP hsecond
  exact ⟨hQ, List.forall_mem_append.mpr ⟨hms, hms'⟩⟩

/-- The load mode of a pass comes first. -/
theorem mode (hs : I s) (hname : N name) (h : Leads D I N ms P) :
    Leads D I N (⟨some name, .mode, s⟩ :: ms) P := by
  intro htakes
  obtain ⟨hP, hms⟩ := h (List.forall_mem_cons.mp htakes).2
  exact ⟨hP, List.forall_mem_cons.mpr ⟨⟨hs, name, rfl, hname⟩, hms⟩⟩

/-- An action of the class comes first. -/
theorem acts {depth place : Nat} {action : Callback} (hs : I s) (hname : N name)
    (h : D action → Leads D I N ms P) :
    Leads D I N (⟨some name, .acts depth place action, s⟩ :: ms) P := by
  intro htakes
  obtain ⟨haction, hrest⟩ := List.forall_mem_cons.mp htakes
  obtain ⟨hP, hms⟩ := h (haction _ _ _ rfl) hrest
  exact ⟨hP, List.forall_mem_cons.mpr ⟨⟨hs, name, rfl, hname⟩, hms⟩⟩

/-- The end of a pass comes last. -/
theorem ends (h : Leads D I N ms P) (hname : N name) (hv : P → I v) :
    Leads D I N (ms ++ [⟨some name, .ends, v⟩]) P :=
  h.append fun hP => of_shows hP (List.forall_mem_singleton.mpr ⟨hv hP, name, rfl, hname⟩)

end Leads

/-- A catalog was found in the slot of a state in which an invariant holds, at the last look, or
there was a fault and the invariant holds. -/
def Finds (I : State → Prop) : Except Fault (Option CatalogName) × State → Prop
  | (.ok name, t) => ∃ u, I u ∧ name = u.context.slot ∧ t = u.afterLook
  | (.error _, t) => I t

theorem Finds.state {I : State → Prop} (hlook : ∀ s, I s → I s.afterLook)
    {r : Except Fault (Option CatalogName) × State} (h : Finds I r) : I r.2 := by
  rcases r with ⟨e | name, t⟩
  · exact h
  · obtain ⟨u, hu, -, rfl⟩ := h
    exact hlook u hu

theorem Finds.look {I : State → Prop} {s : State} (hs : I s) :
    Finds I (.ok s.context.slot, s.afterLook) := ⟨s, hs, rfl, rfl⟩

/-- An invariant that is kept by what stands in front of the stages of a pass. -/
structure Enters (I : State → Prop) : Prop where
  look : ∀ s, I s → I s.afterLook
  target : ∀ s, I s → I (target s).2
  early : ∀ s, I s → I s.early.2

theorem Places.enters {I : State → Prop} (hI : Places I) : Enters I where
  look _ hs := hI.look hs
  target := target_keeps hI
  early _ hs := hI.place _ false reverting_noMode (hI.look hs)

/-- An invariant that is kept by all that happens during passes, if the actions of callbacks are of
a class, with the catalogs that passes are then about. -/
structure Lasts (D : Callback → Prop) (I : State → Prop) (N : CatalogName → Prop) : Prop where
  serves : Serves I
  look : ∀ s, I s → I s.afterLook
  count : ∀ s, I s → I s.count
  mode : Keeps I applyLoadMode
  told : ∀ s place, I s → I (s.call (.told place))
  got : ∀ s place, I s → I (s.afterLook.call (.got place s.context.slot))
  callbacks : ∀ s cs, I s → I { s with callbacks := cs }
  clear : ∀ n, D (.clears n) → ∀ s, I s → I (s.write none)
  retarget : ∀ n, D (.populates n) → ∀ s, I s → I (target s).2
  early : ∀ s, s.context.slot = none → I s → I s.early.2
  ofTarget : ∀ s, I s → N s.targetName
  ofEarly : ∀ s, I s → s.installs = true → N s.afterLook.catalogs.length

/-- The moments of the passes that callbacks start lead to where these passes end. -/
structure InnerLeads (D : Callback → Prop) (I : State → Prop) (N : CatalogName → Prop)
    (inner : Inner) (course : InnerMoments) : Prop where
  populate : ∀ n, D (.populates n) → ∀ s, I s →
    Leads D I N (course.populate s) (I (inner.populate s).2)
  ask : ∀ s, I s → Leads D I N (course.ask s) (Finds I (inner.ask s))

section Stages

variable {I : State → Prop} {s : State}

/-- After the load mode the invariant of the stages holds on, whatever held before. -/
theorem beforeInitial_after (hI : Serves I) (hs : I (applyLoadMode s).2) (name : CatalogName)
    (items : Option Catalog.Handover) : I (beforeInitial name items s).2 := by
  refine Keeps.after hs fun _ => ?_
  cases items with
  | none => exact Keeps.pure ()
  | some items => exact resetTo_keeps hI name items

theorem beforeAdditions_after (hI : Serves I) (hs : I (applyLoadMode s).2) (name : CatalogName)
    (needsInitial : Bool) (items : Option Catalog.Handover) :
    I (beforeAdditions name needsInitial items s).2 :=
  Keeps.after (beforeInitial_after hI hs name items) fun _ =>
    Keeps.ite (populateInitial_keeps hI name).discard (Keeps.pure ())

theorem beforeTelling_after (hI : Serves I) (hs : I (applyLoadMode s).2) (name : CatalogName)
    (needsInitial : Bool) (items : Option Catalog.Handover) :
    I (beforeTelling name needsInitial items s).2 :=
  Keeps.after (beforeAdditions_after hI hs name needsInitial items) fun _ =>
    (populateAdditions_keeps hI name).discard

/-- A best effort that installs its catalog finds the slot empty. -/
theorem slot_of_installs (h : s.installs = true) : s.context.slot = none := by
  rw [installs_eq, Bool.and_eq_true_iff] at h
  exact Option.isNone_iff_eq_none.mp h.1

/-- A best effort that installs nothing finds what an attempt to install leaves. -/
theorem bestEffort_idle {inner : Inner}
    (hearly : ∀ s, s.context.slot = none → s.installs = false → I s → I s.early.2)
    (hinstalls : s.installs = false) (hs : I s) : Finds I (bestEffort inner s) := by
  cases hslot : s.context.slot with
  | some name =>
    rw [bestEffort_of_some hslot]
    exact ⟨s, hs, hslot.symm, rfl⟩
  | none =>
    have hfound : s.afterLook.context.slot.isNone = false := by
      rw [installs_eq, hslot] at hinstalls
      exact hinstalls
    rw [bestEffort_of_none hslot, if_neg (ne_true_of_eq_false hfound)]
    exact .look (hearly s hslot hinstalls hs)

end Stages

namespace Lasts

variable {D : Callback → Prop} {I : State → Prop} {N : CatalogName → Prop} (hI : Lasts D I N)
  {depth : Nat} {course : InnerMoments} {name : CatalogName} {s : State}
include hI

section Telling

variable {inner : Inner} (hin : InnerLeads D I N inner course) (hname : N name)
include hin hname

/-- A single action of the class keeps the invariant, with the passes that it starts. -/
theorem taken_leads {d : Taken} (hsingle : d.action.kind ≠ .composite) (hd : I d.state) :
    Leads D I N (d.moments depth course (some name)) (I (d.run inner).2) := by
  obtain ⟨place, action, s⟩ := d
  refine .acts hd hname fun haction => ?_
  cases action with
  | quiet => exact .nil hd
  | fails e => exact .nil hd
  | populates n => exact hin.populate n haction s hd
  | asks n =>
    refine (hin.ask s hd).mono fun hfinds => ?_
    show I ((inner.ask >>= fun c => modify fun u : State => u.call (.got place c)) s).2
    rw [bind_run]
    rcases hrun : inner.ask s with ⟨e | c, t⟩ <;> rw [hrun] at hfinds
    · exact hfinds
    · obtain ⟨u, hu, rfl, rfl⟩ := hfinds
      exact hI.got u place hu
  | clears n => exact .nil (hI.clear n haction s hd)
  | adds item n => exact .nil (addToInstalled_keeps hI.serves hI.look item s hd)
  | registers other n => exact .nil (hI.callbacks s _ hd)
  | both | recovers | turns => exact absurd rfl hsingle

/-- So do single actions, one after the other. -/
theorem row_leads {ds : List Taken} {v : State} (h : Row inner s ds v) (hs : I s) :
    Leads D I N (ds.flatMap (Taken.moments depth course (some name))) (I v) := by
  induction h with
  | nil s => exact .nil hs
  | cons hsingle _ ih =>
    rw [List.flatMap_cons]
    exact (hI.taken_leads hin hname hsingle hs).append ih

theorem tell_leads (place : Nat) (c : Callback) (hs : I s) :
    Leads D I N ((takenAt inner place c s).flatMap (Taken.moments depth course (some name)))
      (I (tell inner place c s).2) :=
  hI.row_leads hin hname (tell_row inner place c s)
    (hI.callbacks _ _ (hI.told s place hs))

/-- Telling callbacks keeps the invariant, by induction on how many of them are told. -/
theorem tellFrom_leads (count place : Nat) (hs : I s) :
    Leads D I N ((actionsFrom inner count place s).flatMap (Taken.moments depth course (some name)))
      (I (tellFrom inner count place s).2) := by
  induction count generalizing place s with
  | zero => exact .nil hs
  | succ count ih =>
    rw [actionsFrom]
    cases hplace : s.callbacks[place]? with
    | none =>
      rw [tellFrom_of_none hplace]
      exact .nil hs
    | some c =>
      rw [tellFrom_of_some hplace, bind_run]
      show Leads D I N (List.flatMap _ (_ ++ _)) (I _)
      rw [List.flatMap_append]
      refine (hI.tell_leads hin hname place c hs).append fun ht => ?_
      rcases hrun : tell inner place c s with ⟨e | _, t⟩ <;> rw [hrun] at ht
      · exact .nil ht
      · exact ih (place + 1) ht

end Telling

section Passes

variable (hin : InnerLeads D I N (passes depth) course)
include hin

/-- **The stages after the load mode** keep the invariant if it holds then. -/
theorem workMoments_leads (hname : N name) (needsInitial : Bool) (items : Option Catalog.Handover)
    (hs : I (applyLoadMode s).2) : Leads D I N (workMoments depth course name needsInitial items s)
      (I (stages (passes depth) name needsInitial items s).2) := by
  have hreached : ∀ {event r}, I r.2 → ∀ m ∈ reached name event r, m.Shows I N := fun hr m hm => by
    rw [mem_reached hm]
    exact ⟨hr, name, rfl, hname⟩
  -- The invariant need not hold before the load mode, so each part is followed from its end.
  refine Leads.append (.of_shows hs ?_) fun _ => Leads.append (.of_shows hs ?_) fun _ => ?_
  · split
    · exact hreached (beforeInitial_after hI.serves hs name items)
    · exact List.forall_mem_nil _
  · exact hreached (beforeAdditions_after hI.serves hs name needsInitial items)
  · have htelling := beforeTelling_after hI.serves hs name needsInitial items
    rw [stages_eq_bind, bind_run, stagesActions]
    rcases hrun : beforeTelling name needsInitial items s with ⟨e | _, t⟩ <;> rw [hrun] at htelling
    · exact .nil htelling
    · exact hI.tellFrom_leads hin hname _ 0 htelling

/-- **A pass** keeps the invariant from the load mode on. -/
theorem populateMoments_leads (needsInitial : Bool) (items : Option Catalog.Handover)
    (hname : N s.targetName) (hs : I (applyLoadMode (target s).2).2) :
    Leads D I N (workMoments depth course s.targetName needsInitial items (target s).2 ++
        [⟨some s.targetName, .ends, (populateCatalog (passes depth) needsInitial items s).2⟩])
      (I (populateCatalog (passes depth) needsInitial items s).2) := by
  refine ((hI.workMoments_leads hin hname needsInitial items hs).mono fun hend => ?_).ends hname id
  rw [pass_run]
  exact hI.count _ hend

/-- **A best effort** that installs its catalog keeps the invariant from the load mode on, and finds
what is then in the slot. -/
theorem installedMoments_leads (hinstalls : s.installs = true)
    (hname : N s.afterLook.catalogs.length) (hs : I (applyLoadMode s.early.2).2) :
    Leads D I N (workMoments depth course s.afterLook.catalogs.length true none s.early.2 ++
        [⟨some s.afterLook.catalogs.length, .ends, (bestEffort (passes depth) s).2⟩])
      (Finds I (bestEffort (passes depth) s)) := by
  refine ((hI.workMoments_leads hin hname true none hs).mono fun hend => ?_).ends hname
    (Finds.state hI.look)
  have hcount := hI.count _ hend
  rw [bestEffort_of_installs hinstalls, bind_run, counted_run]
  rcases hrun : stages (passes depth) s.afterLook.catalogs.length true none s.early.2 with
    ⟨e | _, t⟩ <;> rw [hrun] at hcount
  · exact hcount
  · exact Finds.look hcount

theorem bestEffortMoments_leads (hs : I s) : Leads D I N (bestEffortMoments depth course s)
    (Finds I (bestEffort (passes depth) s)) := by
  rw [bestEffortMoments]
  cases hinstalls : s.installs with
  | false => exact .nil (bestEffort_idle (fun u hu _ => hI.early u hu) hinstalls hs)
  | true =>
    have hname := hI.ofEarly s hs hinstalls
    have hearly := hI.early s (slot_of_installs hinstalls) hs
    exact .mode hearly hname (hI.installedMoments_leads hin hinstalls hname (hI.mode _ hearly))

theorem getCatalogMoments_leads (hs : I s) : Leads D I N (getCatalogMoments depth course s)
    (Finds I (getCatalog (passes depth) s)) := by
  have hlook := hI.look s hs
  rw [getCatalogMoments]
  cases hslot : s.context.slot with
  | some name =>
    have hfound : Finds I (.ok (some name), s.afterLook) := ⟨s, hs, hslot.symm, rfl⟩
    rw [getCatalog_of_some hslot]
    exact .nil hfound
  | none =>
    rw [getCatalog_of_none hslot]
    cases s.afterLook.context.attached with
    | false => exact .nil hlook
    | true => exact hI.bestEffortMoments_leads hin hlook

end Passes

/-- **Nested passes** keep the invariant, by induction on the depth. -/
theorem passes_leads (depth : Nat) :
    InnerLeads D I N (passes depth) (passesMoments depth) := by
  induction depth with
  | zero => exact ⟨fun _ _ _ hs => .nil hs, fun _ hs => .nil hs⟩
  | succ depth ih =>
    refine ⟨fun n hn s hs => ?_, fun _ hs => hI.getCatalogMoments_leads ih hs⟩
    have htarget := hI.retarget n hn s hs
    have hname := hI.ofTarget s hs
    show Leads D I N _ (I (discard (populateCatalog (passes depth) true none) s).2)
    rw [discard_run]
    exact .mode htarget hname (hI.populateMoments_leads ih true none hname (hI.mode _ htarget))

end Lasts

/-! ### The passes of commands -/

/-- From a state the stages of a pass on a catalog begin in another one: with the catalog of the
context, or with a new one that goes into an empty slot, perhaps after a look at the slot. -/
inductive Begins : State → CatalogName → State → Prop
  | populate (t : State) : Begins t t.targetName (target t).2
  | bestEffort {t : State} (h : t.installs = true) :
      Begins t t.afterLook.catalogs.length t.early.2
  | look {t u : State} {name : CatalogName} (h : Begins t.afterLook name u) : Begins t name u

theorem Begins.keeps {I : State → Prop} (hI : Enters I) {t u : State} {name : CatalogName}
    (h : Begins t name u) (ht : I t) : I u := by
  induction h with
  | populate t => exact hI.target t ht
  | bestEffort => exact hI.early _ ht
  | look _ ih => exact ih (hI.look _ ht)

theorem bestEffort_counted {inner : Inner} {t : State} (hinstalls : t.installs = true) :
    0 < (bestEffort inner t).2.runs.value := by
  rw [bestEffort_of_installs hinstalls, bind_run, counted_run]
  rcases stages inner t.afterLook.catalogs.length true none t.early.2 with ⟨e | _, v⟩
  · exact Nat.succ_pos _
  · show 0 < v.count.afterLook.runs.value
    rw [(afterLook_inputs v.count).1.runs]
    exact Nat.succ_pos _

/-- What a call comes to, by its moments and the state that it leaves: it only looks, or fails to
install a catalog, or it runs a pass, which keeps what lasts from the load mode on. -/
inductive Runs (t : State) : List Moment → State → Prop
  | idle {v : State} (hkeeps : ∀ I : State → Prop, (∀ s, I s → I s.afterLook) →
      (∀ s, s.context.slot = none → s.installs = false → I s → I s.early.2) → I t → I v) :
      Runs t [] v
  | pass {v : State} (name : CatalogName) (u : State) {rest : List Moment}
      (hbegins : Begins t name u) (hcount : 0 < v.runs.value)
      (hkeeps : ∀ D I N, Lasts D I N → N name → I (applyLoadMode u).2 →
        Leads D I N rest (I v)) :
      Runs t (⟨some name, .mode, u⟩ :: rest) v

theorem populateCatalog_runs (depth : Nat) (needsInitial : Bool) (items : Option Catalog.Handover)
    (t : State) : Runs t (populateMoments depth (passesMoments depth) needsInitial items t)
      (populateCatalog (passes depth) needsInitial items t).2 := by
  refine .pass _ _ (.populate t) ?_ fun D I N hI hname hu =>
    hI.populateMoments_leads (hI.passes_leads _) needsInitial items hname hu
  rw [pass_run]
  exact Nat.succ_pos _

theorem bestEffort_runs (depth : Nat) (t : State) : Runs t
    (bestEffortMoments depth (passesMoments depth) t) (bestEffort (passes depth) t).2 := by
  rw [bestEffortMoments]
  cases hinstalls : t.installs with
  | false =>
    exact .idle fun I hlook hearly ht => (bestEffort_idle hearly hinstalls ht).state hlook
  | true =>
    exact .pass _ _ (.bestEffort hinstalls) (bestEffort_counted hinstalls) fun D I N hI hname hu =>
      (hI.installedMoments_leads (hI.passes_leads _) hinstalls hname hu).mono
        (Finds.state hI.look)

theorem Runs.of_look {t v : State} {ms : List Moment} (h : Runs t.afterLook ms v) :
    Runs t ms v := by
  cases h with
  | idle hkeeps => exact .idle fun I hlook hearly ht => hkeeps I hlook hearly (hlook t ht)
  | pass name u hbegins hcount hkeeps => exact .pass name u hbegins.look hcount hkeeps

theorem getCatalog_runs (depth : Nat) (t : State) : Runs t
    (getCatalogMoments depth (passesMoments depth) t) (getCatalog (passes depth) t).2 := by
  rw [getCatalogMoments]
  cases hslot : t.context.slot with
  | some name =>
    rw [getCatalog_of_some hslot]
    exact .idle fun I hlook _ ht => hlook t ht
  | none =>
    rw [getCatalog_of_none hslot]
    cases t.afterLook.context.attached with
    | false => exact .idle fun I hlook _ ht => hlook t ht
    | true => exact (bestEffort_runs depth t.afterLook).of_look

/-- Whether a command asks for a pass, or for the catalog and so perhaps for a pass. -/
def Command.isPass : Command → Bool
  | .populate _ _ => true
  | .bestEffort => true
  | .getCatalog => true
  | _ => false

/-- **A command** that may run a pass shows its moments and its end. -/
theorem Command.runs {c : Command} (hc : c.isPass = true) (t : State) :
    ∃ ms, c.moments t = ms ++ [⟨none, .ends, (c.run t).2⟩] ∧ Runs t ms (c.run t).2 := by
  cases c with
  | populate needsInitial items =>
    refine ⟨_, by rw [Command.moments], ?_⟩
    rw [Command.run, answer_snd, nested_run]
    exact populateCatalog_runs _ needsInitial items t
  | bestEffort =>
    refine ⟨_, by rw [Command.moments], ?_⟩
    rw [Command.run, answer_snd, nested_run]
    exact bestEffort_runs _ t
  | getCatalog =>
    refine ⟨_, by rw [Command.moments], ?_⟩
    rw [Command.run, answer_snd, nested_run]
    exact getCatalog_runs _ t
  | _ => cases hc

/-! ### What actions can start -/

/-- At a moment, passes can be nested as deep as the action that is about to be taken needs. -/
def Moment.Able (m : Moment) : Prop :=
  ∀ depth place action, m.event = .acts depth place action →
    totalWeight m.state.callbacks + action.cost ≤ depth

/-- The passes that callbacks start are deep enough in states that weigh less than so much. -/
structure InnerAble (w : Nat) (course : InnerMoments) : Prop where
  populate : ∀ s, totalWeight s.callbacks < w → ∀ m ∈ course.populate s, m.Able
  ask : ∀ s, totalWeight s.callbacks < w → ∀ m ∈ course.ask s, m.Able

section Able

variable {depth : Nat} {course : InnerMoments} (hcourse : InnerAble depth course)
include hcourse

theorem taken_able (pass : Option CatalogName) {d : Taken}
    (hd : totalWeight d.state.callbacks + d.action.cost ≤ depth) :
    ∀ m ∈ d.moments depth course pass, m.Able := by
  refine List.forall_mem_cons.mpr ⟨fun _ _ _ h => ?_, ?_⟩
  · cases h
    exact hd
  · cases haction : d.action with
    | populates n =>
      rw [haction] at hd
      exact hcourse.populate _ hd
    | asks n =>
      rw [haction] at hd
      exact hcourse.ask _ hd
    | _ => exact List.forall_mem_nil _

theorem stagesMoments_able (name : CatalogName) (needsInitial : Bool)
    (items : Option Catalog.Handover) {s : State} (hs : Light depth s) :
    ∀ m ∈ stagesMoments depth course name needsInitial items s, m.Able := by
  refine List.forall_mem_cons.mpr ⟨nofun, ?_⟩
  have hreached : ∀ {event r}, (∀ depth place action, event ≠ .acts depth place action) →
      ∀ m ∈ reached name event r, m.Able := fun hevent m hm => by
    rw [mem_reached hm]
    exact fun depth place action h => absurd h (hevent depth place action)
  refine List.forall_mem_append.mpr ⟨?_, List.forall_mem_append.mpr ⟨hreached nofun, ?_⟩⟩
  · split
    · exact hreached nofun
    · exact List.forall_mem_nil _
  · intro m hm
    obtain ⟨d, hd, hm⟩ := List.mem_flatMap.mp hm
    exact taken_able hcourse _ (mem_stagesActions_weight (passes_payable depth depth) hs hd) m hm

theorem populateMoments_able (needsInitial : Bool) (items : Option Catalog.Handover) {s : State}
    (hs : Light depth s) : ∀ m ∈ populateMoments depth course needsInitial items s, m.Able :=
  List.forall_mem_append.mpr ⟨stagesMoments_able hcourse _ needsInitial items
    (target_keeps light_installs.places s hs), List.forall_mem_singleton.mpr nofun⟩

theorem bestEffortMoments_able {s : State} (hs : Light depth s) :
    ∀ m ∈ bestEffortMoments depth course s, m.Able := by
  rw [bestEffortMoments]
  split
  · exact List.forall_mem_append.mpr ⟨stagesMoments_able hcourse _ true none
      (light_installs.places.enters.early s hs), List.forall_mem_singleton.mpr nofun⟩
  · exact List.forall_mem_nil _

theorem getCatalogMoments_able {s : State} (hs : Light depth s) :
    ∀ m ∈ getCatalogMoments depth course s, m.Able := by
  rw [getCatalogMoments]
  split
  · exact bestEffortMoments_able hcourse (light_installs.look hs)
  · exact List.forall_mem_nil _

end Able

/-- **Nested passes** are as deep as callbacks need, by induction on the depth: what starts a pass
has made the callbacks lighter. -/
theorem passes_able (depth : Nat) : InnerAble depth (passesMoments depth) := by
  induction depth with
  | zero =>
    exact ⟨fun _ h => absurd h (Nat.not_lt_zero _), fun _ h => absurd h (Nat.not_lt_zero _)⟩
  | succ depth ih =>
    exact ⟨fun s hs => populateMoments_able ih true none (Nat.le_of_lt_succ hs),
      fun s hs => getCatalogMoments_able ih (Nat.le_of_lt_succ hs)⟩

/-- So are the passes of commands. -/
theorem Command.moments_able (c : Command) (t : State) : ∀ m ∈ c.moments t, m.Able := by
  have hcourse := passes_able (totalWeight t.callbacks)
  have ht : Light (totalWeight t.callbacks) t := Nat.le_refl _
  refine List.forall_mem_append.mpr ⟨?_, List.forall_mem_singleton.mpr nofun⟩
  cases c with
  | populate needsInitial items => exact populateMoments_able hcourse needsInitial items ht
  | bestEffort => exact bestEffortMoments_able hcourse ht
  | getCatalog => exact getCatalogMoments_able hcourse ht
  | tell =>
    intro m hm
    obtain ⟨d, hd, hm⟩ := List.mem_flatMap.mp hm
    exact taken_able hcourse none (mem_actionsFrom_weight (passes_payable _ _) ht hd) m hm
  | applyLoadMode => exact List.forall_mem_singleton.mpr nofun
  | populateInitial name => exact List.forall_mem_singleton.mpr nofun
  | populateAdditions name => exact List.forall_mem_singleton.mpr nofun
  | _ => exact List.forall_mem_nil _

/-- **Whatever callbacks do,** passes can be nested as deep as that needs. -/
theorem sessionMoments_able (commands : List Command) (t : State) :
    ∀ m ∈ sessionMoments commands t, m.Able := by
  induction commands generalizing t with
  | nil => exact List.forall_mem_nil _
  | cons c rest ih => exact List.forall_mem_append.mpr ⟨c.moments_able t, ih (c.run t).2⟩

end ItemCatalog.Population
