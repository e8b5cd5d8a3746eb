import ItemCatalog.Proofs.Population.Actions
import ItemCatalog.Proofs.Population.Reading
import ItemCatalog.Proofs.Population.Search
import ItemCatalog.Proofs.Population.Session
import ItemCatalog.Proofs.Resource.Reporting

/-! # Fatal faults: what no stage records

A pass asks collaborators: providers for a source, handlers for a text, and callbacks. `Raises`
lists the points of a pass at which one of them can raise a fault, in a pass that a callback starts,
too, with the state at that point. If the fault is fatal, everything ends there: the state at the
point is the state in which the pass ends, but for the count of passes, so nothing is asked, loaded,
told, stored or said any more.

* `offered_of_fatal`, `fetch_of_fatal`, `loadInitial_of_fatal`: no search and no load records it;
* `populateInitial_of_provider`, `populateInitial_of_handler`, `populateAdditions_of_handler`,
  `tellFrom_of_action`: the stages end with it;
* `raises_run`: so do passes, nested ones too, by induction on the point;
* `session_fatal_fault`: the commands of sessions. -/

namespace ItemCatalog.Population

open Step

/-! ### Providers -/

/-- **Providers**, one of which is asked and raises a fatal fault: the ones after it are not asked,
and nothing is said about it. -/
theorem offered_of_fatal {console : Log.Console} {providers : List Provider} {i : Nat}
    {p : Provider}
    {e : Fault} (hasked : i < (Source.offered console providers).asked)
    (hp : providers[i]? = some p) (hanswer : p.answer = .error e) (he : e.isFatal = true) :
    Source.offered console providers =
      { result := .error e, asked := i + 1, log := Source.declinedNotes (providers.take i) } := by
  obtain ⟨hi, hbefore⟩ := Source.lt_offered_asked_iff.mp hasked
  have hdecision : Source.decision console p = .error e :=
    Source.decision_eq_error_iff.mpr (Or.inl ⟨hanswer, he⟩)
  have hdecided : Source.declines console p = false :=
    Source.declines_eq_false_iff.mpr ⟨.error e, hdecision⟩
  have hsplit : providers = providers.take i ++ p :: providers.drop (i + 1) := by
    rw [← (List.getElem?_eq_some_iff.mp hp).2, List.cons_getElem_drop_succ, List.take_append_drop]
  have hoffered := Source.offered_of_decided hbefore hdecided (providers.drop (i + 1))
  rw [← hsplit, hdecision, List.length_take_of_le (Nat.le_of_lt hi)] at hoffered
  exact hoffered

/-- If providers are asked at all, the search is what they offer. -/
theorem search_of_asked {s : State} (h : 0 < s.search.asked) :
    s.search = Source.offered s.around.console s.providers := by
  unfold State.search at h ⊢
  by_cases hreaches : Source.ReachesFiles s.settings s.context.config
  · cases hbase : Source.baseDirectory s.context.config s.around with
    | error e =>
      rw [Source.resolve_of_no_base hreaches hbase] at h
      exact absurd h (Nat.lt_irrefl 0)
    | ok base =>
      rw [Source.resolve_eq hreaches.1 hbase] at h ⊢
      split at h
      · exact absurd h (Nat.lt_irrefl 0)
      · rfl
  · obtain ⟨source, log, hr⟩ :=
      Source.resolve_of_not_reaches hreaches s.around s.providers (!s.runs.hasRun)
    rw [hr] at h
    exact absurd h (Nat.lt_irrefl 0)

/-- The state in which the provider of a place has just been asked. -/
def State.searchedUpTo (s : State) (i : Nat) : State :=
  (s.ask (i + 1)).say (Source.declinedNotes (s.providers.take i))

theorem populateInitial_of_provider {s : State} {i : Nat} {p : Provider} {e : Fault}
    (hasked : i < s.search.asked) (hp : s.providers[i]? = some p) (hanswer : p.answer = .error e)
    (he : e.isFatal = true) (name : CatalogName) :
    populateInitial name s = (.error e, s.searchedUpTo i) := by
  have hsearch := search_of_asked (Nat.zero_lt_of_lt hasked)
  have hoffered := offered_of_fatal (hsearch ▸ hasked) hp hanswer he
  have hsource : s.source = .error e := by
    show s.search.result = .error e
    rw [hsearch, hoffered]
  have hstate : s.searched = s.searchedUpTo i := by
    rw [State.searched, State.searchedUpTo, hsearch, hoffered]
  unfold populateInitial
  rw [bind_run, resolveSource_run, hsource, hstate]

/-! ### Handlers -/

/-- The handler that is asked for the text of an address, if one is. -/
def handler? (l : Resource.Loader) (uri : String) : Option Resource.Handler :=
  if Text.allBlank uri then none
  else match Resource.Address.ofText uri with
    | .error _ => none
    | .ok a => match l.route a.scheme with
      | .handler h => some h
      | _ => none

/-- **A handler** is asked once, and its fatal fault is not wrapped. -/
theorem fetch_of_fatal {l : Resource.Loader} {uri : String} {h : Resource.Handler} {e : Fault}
    (hh : handler? l uri = some h) (hraise : h uri = .error e) (he : e.isFatal = true)
    (around : Surroundings) : l.fetch around uri =
      { result := .error e, requests := [uri]
        log := [Log.resources.debug s!"Fetching resource {uri}"] } := by
  have hwrap : Resource.Loader.wrap uri e = e := Resource.Loader.wrap_of_isFatal he uri
  unfold handler? at hh
  unfold Resource.Loader.fetch
  split_ifs at hh ⊢ with hblank
  cases ha : Resource.Address.ofText uri with
  | error e' =>
    rw [ha] at hh
    cases hh
  | ok a =>
    simp only [ha] at hh
    cases hroute : l.route a.scheme with
    | handler h' =>
      rw [hroute] at hh
      obtain rfl := Option.some.inj hh
      simp only [hroute, hraise, Except.mapError, hwrap]
    | _ =>
      rw [hroute] at hh
      cases hh

theorem loadInitial_of_fatal (c : Catalog) (uri : String) (mode : PopulateMode) {e : Fault}
    (he : e.isFatal = true) (w : Wording) :
    loadInitial c uri mode (.error e) w = (.error e, c, []) := by
  unfold loadInitial
  simp only [he, if_true]

theorem say_nil (s : State) : s.say [] = s := by
  rw [State.say, List.append_nil]

theorem setCatalog_self (s : State) (name : CatalogName) :
    s.setCatalog name (s.catalog name) = s := by
  rw [State.setCatalog, set_catalog_self]

theorem populateInitial_of_handler {s : State} {source : Source} {l : Resource.Loader}
    {h : Resource.Handler} {e : Fault} (hsource : s.source = .ok (some source))
    (htold : s.around.console.Takes (sourceNotes source)) (hl : s.loaderOr = .ok l)
    (hh : handler? l source.uri = some h)
    (hraise : h source.uri = .error e) (he : e.isFatal = true) (name : CatalogName) :
    populateInitial name s = (.error e, s.searched.readSource l source) := by
  have hsearched : s.searched.loaderOr = .ok l := hl
  have hread : s.searched.read l source.uri = .error e := by
    rw [State.read, fetch_of_fatal hh hraise he]
  have hreported : s.searched.reported (sourceNotes source) = .ok () :=
    State.reported_of_takes htold
  have hnothing : ∀ t : State, t.reported [] = .ok () ∧ t.afterReport [] = t := fun t =>
    ⟨rfl, say_nil t⟩
  rw [populateInitial_run hsource, loadSource_run, hsearched, hreported]
  simp only [hread, loadInitial_of_fatal _ _ _ he, hnothing]
  rw [← State.readSource_catalog s.searched l source name, setCatalog_self]
  rfl

/-- The state after reading the additions with a loader. -/
def State.readAdditions (s : State) (l : Resource.Loader) (uri : String) : State :=
  (if s.runs.hasRun then s else s.say [addingNote uri s.settings.force]).withLoader.fetched l uri

theorem populateAdditions_of_handler {s : State} {uri : String} {l : Resource.Loader}
    {h : Resource.Handler} {e : Fault} (huri : s.additionsUri? = some uri)
    (hlocal : s.settings.disallowLocal = false) (hl : s.loaderOr = .ok l)
    (hh : handler? l uri = some h) (hraise : h uri = .error e) (he : e.isFatal = true)
    (name : CatalogName) : populateAdditions name s = (.error e, s.readAdditions l uri) := by
  have hread : ∀ t : State, t.read l uri = .error e := by
    intro t
    rw [State.read, fetch_of_fatal hh hraise he]
  have hadd : addFrom name uri s = (.error e, s.readAdditions l uri) := by
    unfold addFrom State.readAdditions
    cases hrun : s.runs.hasRun with
    | true =>
      simp only [bind_run, get_run, hasRun_run, hrun, getLoader_run, hl, fetch_run, hread,
        ofExcept_run, Bool.not_true, Bool.false_eq_true, if_false, if_true]
    | false =>
      simp only [bind_run, get_run, hasRun_run, hrun, say_run, getLoader_run, State.say_loaderOr,
        hl, fetch_run, hread, ofExcept_run, Bool.not_false, Bool.false_eq_true, if_false, if_true]
  rw [State.additionsUri?] at huri
  unfold populateAdditions
  simp only [bind_run, get_run, huri, hlocal, Bool.false_eq_true, if_false, hadd]

/-! ### Stages -/

section Stages

variable {inner : Inner} {name : CatalogName} {needsInitial : Bool}
  {items : Option Catalog.Handover}
  {s t u : State} {e : Fault}

theorem beforeTelling_of_before (h : beforeAdditions name needsInitial items s = (.error e, t)) :
    beforeTelling name needsInitial items s = (.error e, t) := by
  rw [beforeTelling, bind_run, h]

theorem stages_of_before (h : beforeTelling name needsInitial items s = (.error e, t)) :
    stages inner name needsInitial items s = (.error e, t) := by
  rw [stages_eq_bind, bind_run, h]

theorem stages_of_initial (hbefore : beforeInitial name items s = (.ok (), u))
    (h : populateInitial name u = (.error e, t)) :
    stages inner name true items s = (.error e, t) := by
  refine stages_of_before (beforeTelling_of_before ?_)
  rw [beforeAdditions, bind_run, hbefore]
  simp only [if_true, discard_run, h]
  rfl

theorem stages_of_additions (hbefore : beforeAdditions name needsInitial items s = (.ok (), u))
    (h : populateAdditions name u = (.error e, t)) :
    stages inner name needsInitial items s = (.error e, t) := by
  refine stages_of_before ?_
  rw [beforeTelling, bind_run, hbefore]
  simp only [discard_run, h]
  rfl

variable (he : e.isFatal = true)
include he

/-- **A single action that fails so** ends the telling: no callback is told after it. -/
theorem tellFrom_of_action {d : Taken} {count place : Nat}
    (hd : d ∈ actionsFrom inner count place s) (h : d.run inner = (.error e, t)) :
    tellFrom inner count place s = (.error e, t) := by
  induction count generalizing place s with
  | zero => cases hd
  | succ count ih =>
    rw [actionsFrom] at hd
    cases hplace : s.callbacks[place]? with
    | none =>
      rw [hplace] at hd
      cases hd
    | some c =>
      rw [hplace] at hd
      rw [tellFrom_of_some hplace, bind_run]
      rcases List.mem_append.mp hd with hfirst | hrest
      · rw [tell_run, act_of_taken he hfirst h]
      · rcases htell : tell inner place c s with ⟨e' | _, v⟩
        · rw [htell] at hrest
          cases hrest
        · rw [htell] at hrest
          exact ih hrest

theorem stages_of_action {d : Taken} (hd : d ∈ stagesActions inner name needsInitial items s)
    (h : d.run inner = (.error e, t)) : stages inner name needsInitial items s = (.error e, t) := by
  rw [stages_eq_bind, bind_run]
  unfold stagesActions at hd
  rcases hbefore : beforeTelling name needsInitial items s with ⟨e' | _, v⟩
  · rw [hbefore] at hd
    cases hd
  · rw [hbefore] at hd
    exact tellFrom_of_action he hd h

end Stages

/-! ### Points of passes -/

/-- What the stages of a pass start with. -/
structure PassStart where
  name : CatalogName
  needsInitial : Bool
  items : Option Catalog.Handover
  state : State

/-- How the stages start if the catalog of the context is populated. -/
def PassStart.ofPopulate (needsInitial : Bool) (items : Option Catalog.Handover) (s : State) :
    PassStart :=
  ⟨s.targetName, needsInitial, items, (target s).2⟩

/-- How the stages start if a best effort has installed its catalog. -/
def PassStart.ofBestEffort (s : State) : PassStart :=
  ⟨s.afterLook.catalogs.length, true, none, s.early.2⟩

/-- The stages. -/
def PassStart.run (p : PassStart) (inner : Inner) : Except Fault Unit × State :=
  stages inner p.name p.needsInitial p.items p.state

/-- The actions of callbacks during the stages. -/
def PassStart.actions (p : PassStart) (inner : Inner) : List Taken :=
  stagesActions inner p.name p.needsInitial p.items p.state

/-- A command starts a pass, whose stages start with this. -/
inductive Command.Starts : Command → State → PassStart → Prop
  | populate (needsInitial : Bool) (items : Option Catalog.Handover) (s : State) :
      Starts (.populate needsInitial items) s (.ofPopulate needsInitial items s)
  | bestEffort {s : State} (h : s.installs = true) : Starts .bestEffort s (.ofBestEffort s)
  | getCatalog {s : State} (hslot : s.context.slot = none)
      (hattached : s.afterLook.context.attached = true) (h : s.afterLook.installs = true) :
      Starts .getCatalog s (.ofBestEffort s.afterLook)

/-- The command that an action gives. -/
def Callback.command? : Callback → Option Command
  | .populates _ => some (.populate true none)
  | .asks _ => some .getCatalog
  | _ => none

/-- **The points** of a pass at which a collaborator raises a fault, with the state at the point: a
provider that is asked, the handler for the source of the initial catalog, once the source is
reported, the handler for the additions, a callback, or any of them in a pass that a callback
starts. The passes that callbacks start on the way to a point are counted in its state. -/
inductive Raises (e : Fault) : Nat → PassStart → State → Prop
  | provider {depth : Nat} {p : PassStart} {u : State} {i : Nat} {q : Provider}
      (hinitial : p.needsInitial = true)
      (hbefore : beforeInitial p.name p.items p.state = (.ok (), u))
      (hasked : i < u.search.asked) (hq : u.providers[i]? = some q) (hraise : q.answer = .error e) :
      Raises e depth p (u.searchedUpTo i)
  | initial {depth : Nat} {p : PassStart} {u : State} {source : Source} {l : Resource.Loader}
      {h : Resource.Handler} (hinitial : p.needsInitial = true)
      (hbefore : beforeInitial p.name p.items p.state = (.ok (), u))
      (hsource : u.source = .ok (some source))
      (htold : u.around.console.Takes (sourceNotes source)) (hl : u.loaderOr = .ok l)
      (hh : handler? l source.uri = some h) (hraise : h source.uri = .error e) :
      Raises e depth p (u.searched.readSource l source)
  | additions {depth : Nat} {p : PassStart} {u : State} {uri : String} {l : Resource.Loader}
      {h : Resource.Handler}
      (hbefore : beforeAdditions p.name p.needsInitial p.items p.state = (.ok (), u))
      (huri : u.additionsUri? = some uri) (hlocal : u.settings.disallowLocal = false)
      (hl : u.loaderOr = .ok l) (hh : handler? l uri = some h) (hraise : h uri = .error e) :
      Raises e depth p (u.readAdditions l uri)
  | callback {depth : Nat} {p : PassStart} {d : Taken} (hd : d ∈ p.actions (passes depth))
      (hraise : d.action = .fails e) : Raises e depth p d.state
  | nested {depth : Nat} {p p' : PassStart} {d : Taken} {c : Command} {t : State}
      (hd : d ∈ p.actions (passes depth)) (hc : d.action.command? = some c)
      (hstarts : c.Starts d.state p') (hraise : Raises e (depth - 1) p' t) :
      Raises e depth p t.count

section Passes

variable {inner : Inner} {s t : State} {e : Fault}

theorem populateCatalog_of_error {needsInitial : Bool} {items : Option Catalog.Handover}
    (h : (PassStart.ofPopulate needsInitial items s).run inner = (.error e, t)) :
    populateCatalog inner needsInitial items s = (.error e, t.count) := by
  rw [PassStart.run, PassStart.ofPopulate] at h
  rw [pass_run, h]
  rfl

theorem bestEffort_of_error (hinstalls : s.installs = true)
    (h : (PassStart.ofBestEffort s).run inner = (.error e, t)) :
    bestEffort inner s = (.error e, t.count) := by
  rw [PassStart.run, PassStart.ofBestEffort] at h
  rw [bestEffort_of_installs hinstalls, bind_run, counted_run, h]

theorem getCatalog_of_error (hslot : s.context.slot = none)
    (hattached : s.afterLook.context.attached = true) (hinstalls : s.afterLook.installs = true)
    (h : (PassStart.ofBestEffort s.afterLook).run inner = (.error e, t)) :
    getCatalog inner s = (.error e, t.count) := by
  rw [getCatalog_of_none hslot, if_pos hattached]
  exact bestEffort_of_error hinstalls h

/-- An action that starts a pass ends as that does. -/
theorem act_of_error {depth : Nat} {d : Taken} {c : Command} {p : PassStart}
    (hc : d.action.command? = some c) (hstarts : c.Starts d.state p)
    (h : p.run (passes depth) = (.error e, t)) :
    d.run (passes (depth + 1)) = (.error e, t.count) := by
  obtain ⟨place, action, u⟩ := d
  cases action with
  | populates n =>
    obtain rfl := Option.some.inj hc
    cases hstarts
    have hpass := populateCatalog_of_error h
    show discard (populateCatalog (passes depth) true none) u = (.error e, t.count)
    rw [discard_run, hpass]
    rfl
  | asks n =>
    obtain rfl := Option.some.inj hc
    cases hstarts with
    | getCatalog hslot hattached hinstalls =>
      have hpass := getCatalog_of_error hslot hattached hinstalls h
      show (getCatalog (passes depth) >>= fun name => modify fun s => s.call (.got place name)) u =
        (.error e, t.count)
      rw [bind_run, hpass]
  | _ => cases hc

theorem command_cost {action : Callback} {c : Command} (h : action.command? = some c) :
    action.cost = 1 := by
  cases action <;> cases h <;> rfl

/-- What the bookkeeping of passes keeps holds when the stages start. -/
theorem starts_keep {I : State → Prop} (hI : Places I) {c : Command} {p : PassStart}
    (h : c.Starts s p) (hs : I s) : I p.state := by
  cases h with
  | populate needsInitial items => exact target_keeps hI s hs
  | bestEffort => exact hI.place _ false reverting_noMode (hI.look hs)
  | getCatalog => exact hI.place _ false reverting_noMode (hI.look (hI.look hs))

/-- What gives a command has been paid for. -/
theorem action_light {d : Taken} {c : Command} {w : Nat}
    (hpaid : totalWeight d.state.callbacks + d.action.cost ≤ w) (hc : d.action.command? = some c) :
    0 < w ∧ Light (w - 1) d.state := by
  rw [command_cost hc] at hpaid
  exact ⟨Nat.lt_of_lt_of_le (Nat.succ_pos _) hpaid, Nat.le_sub_one_of_lt hpaid⟩

/-- What starts a pass has been paid for, so that the pass can be started. -/
theorem act_of_light {depth : Nat} {d : Taken} {c : Command} {p : PassStart}
    (hpaid : totalWeight d.state.callbacks + d.action.cost ≤ depth)
    (hc : d.action.command? = some c) (hstarts : c.Starts d.state p)
    (h : Light (depth - 1) p.state → p.run (passes (depth - 1)) = (.error e, t)) :
    d.run (passes depth) = (.error e, t.count) := by
  obtain ⟨hpos, hlight⟩ := action_light hpaid hc
  obtain ⟨depth, rfl⟩ := Nat.exists_eq_add_one.mpr hpos
  exact act_of_error hc hstarts (h (starts_keep light_installs.places hstarts hlight))

/-- **A fatal fault ends the stages** where it is raised, by induction on the point: passes are
never nested so deep that they cannot be started. -/
theorem raises_run (he : e.isFatal = true) {depth : Nat} {p : PassStart}
    (hlight : Light depth p.state) (h : Raises e depth p t) :
    p.run (passes depth) = (.error e, t) := by
  induction h with
  | @provider depth p u i q hinitial hbefore hasked hq hraise =>
    rw [PassStart.run, hinitial]
    exact stages_of_initial hbefore (populateInitial_of_provider hasked hq hraise he p.name)
  | @initial depth p u source l h hinitial hbefore hsource htold hl hh hraise =>
    rw [PassStart.run, hinitial]
    exact stages_of_initial hbefore
      (populateInitial_of_handler hsource htold hl hh hraise he p.name)
  | additions hbefore huri hlocal hl hh hraise =>
    exact stages_of_additions hbefore
      (populateAdditions_of_handler huri hlocal hl hh hraise he _)
  | callback hd hraise =>
    refine stages_of_action he hd ?_
    rw [Taken.run, hraise]
    rfl
  | @nested depth p p' d c t hd hc hstarts _ ih =>
    have hpaid := mem_stagesActions_weight (passes_payable depth depth) hlight hd
    exact stages_of_action he hd (act_of_light hpaid hc hstarts ih)

end Passes

/-! ### Sessions -/

/-- The answer of a command that fails. -/
def Command.failed (e : Fault) : Command → Answer
  | .populate _ _ => .name (.error e)
  | .bestEffort => .slot (.error e)
  | .getCatalog => .slot (.error e)
  | .applyLoadMode => .done (.error e)
  | .populateInitial _ => .load (.error e)
  | .populateAdditions _ => .items (.error e)
  | .tell => .done (.error e)
  | .install _ _ _ => .slot (.error e)
  | .enter _ => .done (.error e)

/-- A collaborator raises a fault in a pass of a command, with the state at that point. The command
starts the pass, or a callback that it tells. -/
inductive Command.Raises (e : Fault) : Command → State → State → Prop
  | pass {c : Command} {s t : State} {p : PassStart} (hstarts : c.Starts s p)
      (hraise : Population.Raises e (totalWeight s.callbacks) p t) : Command.Raises e c s t
  | told {c : Command} {s t : State} {p : PassStart} {d : Taken}
      (hd : d ∈ s.actions (passes (totalWeight s.callbacks))) (hc : d.action.command? = some c)
      (hstarts : c.Starts d.state p)
      (hraise : Population.Raises e (totalWeight s.callbacks - 1) p t) :
      Command.Raises e .tell s t

/-- A command whose pass fails answers with the failure, and its pass is counted. -/
theorem command_of_error {e : Fault} {c : Command} {s t : State} {p : PassStart}
    (hstarts : c.Starts s p) (h : p.run (passes (totalWeight s.callbacks)) = (.error e, t)) :
    c.run s = (c.failed e, t.count) := by
  cases hstarts with
  | populate needsInitial items =>
    rw [Command.run, answer, nested_run, populateCatalog_of_error h]
    rfl
  | bestEffort hinstalls =>
    rw [Command.run, answer, nested_run, bestEffort_of_error hinstalls h]
    rfl
  | getCatalog hslot hattached hinstalls =>
    rw [Command.run, answer, nested_run, getCatalog_of_error hslot hattached hinstalls h]
    rfl

theorem starts_fatal_fault {e : Fault} (he : e.isFatal = true) {c : Command} {s t : State}
    {p : PassStart} (hstarts : c.Starts s p)
    (hraise : Raises e (totalWeight s.callbacks) p t) : c.run s = (c.failed e, t.count) :=
  command_of_error hstarts
    (raises_run he (starts_keep light_installs.places hstarts (Nat.le_refl _)) hraise)

theorem command_fatal_fault {e : Fault} (he : e.isFatal = true) {c : Command} {s t : State}
    (h : Command.Raises e c s t) : c.run s = (c.failed e, t.count) := by
  cases h with
  | pass hstarts hraise => exact starts_fatal_fault he hstarts hraise
  | told hd hc hstarts hraise =>
    have hpaid := mem_actionsFrom_weight (passes_payable _ _)
      (Nat.le_refl (totalWeight s.callbacks)) hd
    have hact := act_of_light hpaid hc hstarts fun hlight => raises_run he hlight hraise
    have htell : tellAll (passes (totalWeight s.callbacks)) s = (.error e, t.count) :=
      tellFrom_of_action he hd hact
    rw [Command.run, answer, nested_run, htell]
    rfl

/-- **Fatal faults are never captured.** After any commands, a fatal fault that a collaborator
raises during a pass, at whatever point, is the answer of the command, as it was raised. The state
is the one of that point, with one more pass counted: no provider, load, stage or callback comes
after it, and nothing is said about it. -/
theorem session_fatal_fault {e : Fault} (he : e.isFatal = true) (first : List Command) {c : Command}
    {s t : State} (h : Command.Raises e c (session first s).2 t) :
    session (first ++ [c]) s = ((session first s).1 ++ [c.failed e], t.count) := by
  have hc := command_fatal_fault he h
  rw [session_append, session, hc]
  rfl

/-- A state in which no source may be read, with a callback that starts a pass, one after it that
raises a fault, and one more. -/
def raisingState (e : Fault) : State where
  settings := { disallowLocal := true }
  callbacks := [.populates 1, .fails e, .quiet]

/-- The state in which the first callback starts its pass: the slot is taken, and the load mode was
read. -/
def startingState (e : Fault) : State where
  catalogs := [.empty]
  context := { slot := some 0 }
  settings := { disallowLocal := true }
  callbacks := [.populates 0, .fails e, .quiet]
  modeRead := ⟨true⟩
  trace := { writes := [some 0], calls := [.told 0], log := [Source.disallowedNote] }

/-- The fault of the second callback is raised in the pass that the first one starts. -/
theorem raisingState_raises (e : Fault) : ∃ t,
    Command.Raises e (.populate true none) (raisingState e) t ∧ t.runs.value = 1 ∧
      t.trace.calls = [.told 0, .told 0, .told 1] := by
  let outer := PassStart.ofPopulate true none (raisingState e)
  let nested := PassStart.ofPopulate true none (startingState e)
  have hfirst : (outer.actions (passes 1))[0]? = some ⟨0, .populates 1, startingState e⟩ := rfl
  obtain ⟨t, hsecond, hruns, hcalls⟩ : ∃ t,
      (nested.actions (passes 0))[0]? = some ⟨1, .fails e, t⟩ ∧
      t.runs.value = 0 ∧ t.trace.calls = [.told 0, .told 0, .told 1] := ⟨_, rfl, rfl, rfl⟩
  have hnested : Raises e 0 nested t := Raises.callback (List.mem_of_getElem? hsecond) rfl
  have houter : Raises e 1 outer t.count :=
    Raises.nested (List.mem_of_getElem? hfirst) rfl (Command.Starts.populate true none _) hnested
  exact ⟨t.count, Command.Raises.pass (Command.Starts.populate true none _) houter,
    congrArg (· + 1) hruns, hcalls⟩

/-- If the memory is used up there, that is the answer, both passes are counted, and the last
callback is not told. -/
theorem session_of_exhausted_memory :
    (session [.populate true none] (raisingState (.memory "full"))).1 =
      [.name (.error (.memory "full"))] ∧
    (session [.populate true none] (raisingState (.memory "full"))).2.runs.value = 2 ∧
    (session [.populate true none] (raisingState (.memory "full"))).2.trace.calls =
      [.told 0, .told 0, .told 1] := by
  obtain ⟨t, hraises, hruns, hcalls⟩ := raisingState_raises (.memory "full")
  have hrun : session [.populate true none] (raisingState (.memory "full")) =
      ([.name (.error (.memory "full"))], t.count) := session_fatal_fault rfl [] hraises
  rw [hrun]
  exact ⟨rfl, congrArg (· + 1) hruns, hcalls⟩

end ItemCatalog.Population
