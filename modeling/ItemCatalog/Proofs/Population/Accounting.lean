import ItemCatalog.Proofs.Population.Actions
import ItemCatalog.Proofs.Population.Session

/-! # Accounting: the count of passes

The calls of a session that may start a pass form trees: a call holds the calls that callbacks make
during its stages. Every call carries the count of passes when it starts and when it ends.
`Accounted` says that the counts of calls follow from each other: a call that runs a pass adds one,
after what the calls in it have added, and nothing else changes the count.

* `stages_accounted`: from accounted passes of callbacks to accounted stages, action by action;
* `passes_accounted`: passes at any depth, by induction on the depth;
* `session_accounted`: whole sessions, by induction on the commands. -/

namespace ItemCatalog.Population

open Step

/-! ### Calls -/

/-- The calls that may start a pass: a pass on the catalog of the context, a best effort, and
whether its catalog went into an empty slot, or a call that was nested too deep to be made. -/
inductive CallKind where
  | populate
  | bestEffort (installed : Bool)
  | refused
deriving DecidableEq

/-- Calls that may start a pass, with the counts of passes when they start and end, and the calls
that callbacks make meanwhile. -/
inductive CallTree where
  | node (kind : CallKind) (before after : Nat) (nested : List CallTree)

mutual

/-- The kinds of a call and of all calls in it. -/
def CallTree.kinds : CallTree → List CallKind
  | .node kind _ _ nested => kind :: allKinds nested

/-- The kinds of calls and of all calls in them. -/
def allKinds : List CallTree → List CallKind
  | [] => []
  | c :: rest => c.kinds ++ allKinds rest

end

/-- The calls that the passes of callbacks make, by the state in which they are started. -/
structure InnerCalls where
  populate : State → List CallTree
  ask : State → List CallTree

/-- The calls that an action makes. -/
def Taken.calls (calls : InnerCalls) (d : Taken) : List CallTree :=
  match d.action with
  | .populates _ => calls.populate d.state
  | .asks _ => calls.ask d.state
  | _ => []

section Calls

variable (inner : Inner) (calls : InnerCalls)

/-- The calls that callbacks make while all of them are told. -/
def tellingCalls (s : State) : List CallTree :=
  (s.actions inner).flatMap (Taken.calls calls)

/-- The calls that callbacks make during the stages of a pass. -/
def stagesCalls (name : CatalogName) (needsInitial : Bool) (items : Option Catalog.Handover)
    (s : State) : List CallTree :=
  (stagesActions inner name needsInitial items s).flatMap (Taken.calls calls)

/-- A pass as a call. -/
def populateCall (needsInitial : Bool) (items : Option Catalog.Handover) (s : State) : CallTree :=
  .node .populate s.runs.value (populateCatalog inner needsInitial items s).2.runs.value
    (stagesCalls inner calls s.targetName needsInitial items (target s).2)

/-- A best effort as a call. -/
def bestEffortCall (s : State) : CallTree :=
  .node (.bestEffort s.installs) s.runs.value (bestEffort inner s).2.runs.value
    (if s.installs then stagesCalls inner calls s.afterLook.catalogs.length true none s.early.2
    else [])

/-- The calls of asking a context for its catalog. -/
def getCatalogCalls (s : State) : List CallTree :=
  if s.context.slot.isNone && s.afterLook.context.attached then
    [bestEffortCall inner calls s.afterLook]
  else []

end Calls

/-- The calls of the passes that callbacks can start. -/
def passesCalls : Nat → InnerCalls
  | 0 =>
    let refused := fun s : State => [.node .refused s.runs.value s.runs.value []]
    ⟨refused, refused⟩
  | depth + 1 =>
    ⟨fun s => [populateCall (passes depth) (passesCalls depth) true none s],
      getCatalogCalls (passes depth) (passesCalls depth)⟩

/-- The calls that a command makes. -/
def Command.calls (c : Command) (s : State) : List CallTree :=
  let inner := passes (totalWeight s.callbacks)
  let calls := passesCalls (totalWeight s.callbacks)
  match c with
  | .populate needsInitial items => [populateCall inner calls needsInitial items s]
  | .bestEffort => [bestEffortCall inner calls s]
  | .getCatalog => getCatalogCalls inner calls s
  | .tell => tellingCalls inner calls s
  | _ => []

/-- The calls that commands make, one after the other. -/
def sessionCalls : List Command → State → List CallTree
  | [], _ => []
  | c :: rest, s => c.calls s ++ sessionCalls rest (c.run s).2

/-! ### Counts -/

/-- Calls, one after the other, take a count to another one: a pass adds one when it ends, after
what the calls in it have added, and a best effort that installs nothing leaves the count. -/
inductive Accounted : Nat → List CallTree → Nat → Prop
  | nil (n : Nat) : Accounted n [] n
  | pass {kind : CallKind} {n m k : Nat} {nested rest : List CallTree}
      (hkind : kind = .populate ∨ kind = .bestEffort true) (hnested : Accounted n nested m)
      (hrest : Accounted (m + 1) rest k) : Accounted n (.node kind n (m + 1) nested :: rest) k
  | idle {n k : Nat} {rest : List CallTree} (hrest : Accounted n rest k) :
      Accounted n (.node (.bestEffort false) n n [] :: rest) k

namespace Accounted

variable {n m k : Nat} {calls rest : List CallTree}

theorem append (h : Accounted n calls m) (hrest : Accounted m rest k) :
    Accounted n (calls ++ rest) k := by
  induction h with
  | nil n => exact hrest
  | pass hkind hnested _ _ ih => exact Accounted.pass hkind hnested (ih hrest)
  | idle _ ih => exact Accounted.idle (ih hrest)

theorem single {kind : CallKind} (hkind : kind = .populate ∨ kind = .bestEffort true)
    (h : Accounted n calls m) : Accounted n [.node kind n (m + 1) calls] (m + 1) :=
  Accounted.pass hkind h (Accounted.nil (m + 1))

/-- **The count** goes up by the number of calls that run a pass, and no call is refused. -/
theorem number (h : Accounted n calls m) :
    m = n + (allKinds calls).count .populate + (allKinds calls).count (.bestEffort true) ∧
      CallKind.refused ∉ allKinds calls := by
  induction h with
  | nil n => exact ⟨rfl, List.not_mem_nil⟩
  | pass hkind _ _ hnested hrest =>
    simp only [allKinds, CallTree.kinds, List.count_append, List.count_cons, List.mem_append,
      List.mem_cons]
    obtain ⟨hm, hnested⟩ := hnested
    obtain ⟨hk, hrest⟩ := hrest
    rcases hkind with rfl | rfl
    · refine ⟨?_, by simp [hnested, hrest]⟩
      simp
      omega
    · refine ⟨?_, by simp [hnested, hrest]⟩
      simp
      omega
  | idle _ hrest =>
    obtain ⟨hk, hrest⟩ := hrest
    simp [allKinds, CallTree.kinds, hrest, hk]

end Accounted

/-! ### Stages -/

/-- The passes of callbacks are accounted for in states that weigh less than so much. -/
structure InnerAccounted (w : Nat) (inner : Inner) (calls : InnerCalls) : Prop where
  populate : ∀ {s}, totalWeight s.callbacks < w →
    Accounted s.runs.value (calls.populate s) (inner.populate s).2.runs.value
  ask : ∀ {s}, totalWeight s.callbacks < w →
    Accounted s.runs.value (calls.ask s) (inner.ask s).2.runs.value

section Stages

variable {w : Nat} {inner : Inner} {calls : InnerCalls} {s : State}

theorem runs_serves (r : RunCounter) : Serves fun s => s.runs = r where
  say _ _ hs := hs
  ask _ hs := hs
  loader _ hs := hs
  fetch _ _ hs := hs
  setCatalog _ _ hs := hs

theorem beforeTelling_runs (name : CatalogName) (needsInitial : Bool)
    (items : Option Catalog.Handover)
    (s : State) : (beforeTelling name needsInitial items s).2.runs = s.runs := by
  refine beforeTelling_keeps (runs_serves s.runs) (fun t ht => ?_) name needsInitial items s rfl
  rw [applyLoadMode_run]
  exact ht

theorem addToInstalled_runs (item : Item) (s : State) :
    (addToInstalled item s).2.runs = s.runs :=
  addToInstalled_keeps (runs_serves s.runs) (fun t ht => (afterLook_inputs t).1.runs.trans ht) item
    s rfl

variable (hcalls : InnerAccounted w inner calls)
include hcalls

/-- **One action:** what it starts costs something, so it is accounted for. -/
theorem taken_accounted {d : Taken} (hsingle : d.action.kind ≠ .composite)
    (hd : totalWeight d.state.callbacks + d.action.cost ≤ w) :
    Accounted d.state.runs.value (d.calls calls) (d.run inner).2.runs.value := by
  obtain ⟨place, action, t⟩ := d
  cases action with
  | quiet | fails | clears | registers => exact Accounted.nil _
  | populates n => exact hcalls.populate hd
  | asks n =>
    have hruns : (act inner place (.asks n) t).2.runs = (inner.ask t).2.runs := by
      rw [act, bind_run]
      rcases inner.ask t with ⟨e | name, u⟩ <;> rfl
    show Accounted t.runs.value (calls.ask t) (act inner place (.asks n) t).2.runs.value
    rw [hruns]
    exact hcalls.ask hd
  | adds item n =>
    show Accounted t.runs.value [] (addToInstalled item t).2.runs.value
    rw [addToInstalled_runs]
    exact Accounted.nil _
  | both | recovers | turns => exact absurd rfl hsingle

/-- Single actions are accounted for one after the other. -/
theorem row_accounted {ds : List Taken} {v : State} (h : Row inner s ds v)
    (hds : ∀ d ∈ ds, totalWeight d.state.callbacks + d.action.cost ≤ w) :
    Accounted s.runs.value (ds.flatMap (Taken.calls calls)) v.runs.value := by
  induction h with
  | nil s => exact Accounted.nil _
  | cons hsingle _ ih =>
    obtain ⟨hd, hrest⟩ := List.forall_mem_cons.mp hds
    exact (taken_accounted hcalls hsingle hd).append (ih hrest)

variable (hin : InnerPays (Payable w) inner)
include hin

theorem tell_accounted {place : Nat} {c : Callback} (hplace : s.callbacks[place]? = some c)
    (hs : Light w s) :
    Accounted s.runs.value ((takenAt inner place c s).flatMap (Taken.calls calls))
      (tell inner place c s).2.runs.value := by
  have hrow : Accounted (s.told place c.turn.2).runs.value _ _ :=
    row_accounted hcalls (tell_row inner place c s) fun _ hd =>
      mem_takenBy_pays (payable_pays w) hin ((payable_pays w).told (k := 0) hplace hs) hd
  exact hrow

/-- **Telling callbacks**, by induction on how many are told. -/
theorem tellFrom_accounted (count place : Nat) (hs : Light w s) :
    Accounted s.runs.value ((actionsFrom inner count place s).flatMap (Taken.calls calls))
      (tellFrom inner count place s).2.runs.value := by
  induction count generalizing place s with
  | zero => exact Accounted.nil _
  | succ count ih =>
    rw [actionsFrom]
    cases hplace : s.callbacks[place]? with
    | none =>
      rw [tellFrom_of_none hplace]
      exact Accounted.nil _
    | some c =>
      have hfirst := tell_accounted hcalls hin hplace hs
      have hlight := tell_light hin hplace hs
      rw [tellFrom_of_some hplace, bind_run, List.flatMap_append]
      -- After a callback that fails no other one is told, so there are no more calls.
      rcases htell : tell inner place c s with ⟨e | _, t⟩ <;> rw [htell] at hfirst hlight
      · exact hfirst.append (Accounted.nil _)
      · exact hfirst.append (ih (place + 1) hlight)

theorem tellAll_accounted (hs : Light w s) : Accounted s.runs.value (tellingCalls inner calls s)
    (tellAll inner s).2.runs.value :=
  tellFrom_accounted hcalls hin _ 0 hs

/-- **The stages** change the count by the calls of callbacks only. -/
theorem stages_accounted (name : CatalogName) (needsInitial : Bool)
    (items : Option Catalog.Handover)
    (hs : Light w s) :
    Accounted s.runs.value (stagesCalls inner calls name needsInitial items s)
      (stages inner name needsInitial items s).2.runs.value := by
  have hruns := beforeTelling_runs name needsInitial items s
  have hlight := beforeTelling_light name needsInitial items s hs
  rw [stages_eq_bind, bind_run, stagesCalls, stagesActions]
  rcases hbefore : beforeTelling name needsInitial items s with ⟨e | _, t⟩ <;>
    rw [hbefore] at hruns hlight
  · rw [← hruns]
    exact Accounted.nil _
  · rw [← hruns]
    exact tellAll_accounted hcalls hin hlight

/-! ### Passes -/

/-- **A pass** adds one, after its stages. -/
theorem populateCatalog_accounted (needsInitial : Bool) (items : Option Catalog.Handover)
    (hs : Light w s) : Accounted s.runs.value [populateCall inner calls needsInitial items s]
      (populateCatalog inner needsInitial items s).2.runs.value := by
  have htarget := (target_comes s).inputs
  have hlight := target_keeps light_installs.places s hs
  have hstages := stages_accounted hcalls hin s.targetName needsInitial items hlight
  rw [htarget.runs] at hstages
  rw [populateCall, pass_run]
  exact Accounted.single (Or.inl rfl) hstages

/-- **A best effort** adds one if it installs its catalog, after its stages. -/
theorem bestEffort_accounted (hs : Light w s) :
    Accounted s.runs.value [bestEffortCall inner calls s] (bestEffort inner s).2.runs.value := by
  rw [bestEffortCall]
  cases hinstalls : s.installs with
  | false =>
    rw [(bestEffort_of_not_installs hinstalls).runs]
    exact Accounted.idle (Accounted.nil _)
  | true =>
    have hearly := early_inputs s
    have hlight : Light w s.early.2 := by
      rw [Light, hearly.callbacks]
      exact hs
    have hstages := stages_accounted hcalls hin s.afterLook.catalogs.length true none hlight
    rw [hearly.runs] at hstages
    have hruns : (bestEffort inner s).2.runs.value =
        (stages inner s.afterLook.catalogs.length true none s.early.2).2.runs.value + 1 := by
      rw [bestEffort_of_installs hinstalls, bind_run, counted_run]
      rcases stages inner s.afterLook.catalogs.length true none s.early.2 with ⟨e | _, t⟩
      · rfl
      · exact congrArg RunCounter.value (look_comes t.count).inputs.runs
    rw [hruns]
    exact Accounted.single (Or.inr rfl) hstages

theorem getCatalog_accounted (hs : Light w s) :
    Accounted s.runs.value (getCatalogCalls inner calls s) (getCatalog inner s).2.runs.value := by
  have hafter := (afterLook_inputs s).1
  have hlight : Light w s.afterLook := light_installs.look hs
  rw [getCatalogCalls]
  cases hslot : s.context.slot with
  | some name =>
    rw [getCatalog_of_some hslot, hafter.runs]
    exact Accounted.nil _
  | none =>
    have hbest := bestEffort_accounted hcalls hin hlight
    rw [hafter.runs] at hbest
    rw [getCatalog_of_none hslot]
    cases s.afterLook.context.attached with
    | true => exact hbest
    | false =>
      show Accounted s.runs.value [] s.afterLook.runs.value
      rw [hafter.runs]
      exact Accounted.nil _

end Stages

/-- **Nested passes**, as deep as the callbacks can make them, by induction on the depth: what
starts a pass has made the callbacks lighter. -/
theorem passes_accounted (depth : Nat) :
    InnerAccounted depth (passes depth) (passesCalls depth) := by
  induction depth with
  | zero => exact ⟨fun h => absurd h (Nat.not_lt_zero _), fun h => absurd h (Nat.not_lt_zero _)⟩
  | succ depth ih =>
    have hin : InnerPays (Payable depth) (passes depth) := passes_payable depth depth
    refine ⟨fun {s} hs => ?_, fun {s} hs => ?_⟩
    · have hpass := populateCatalog_accounted ih hin true none (Nat.le_of_lt_succ hs)
      have hruns : ((passes (depth + 1)).populate s).2 =
          (populateCatalog (passes depth) true none s).2 := by
        show (discard (populateCatalog (passes depth) true none) s).2 = _
        rw [discard_run]
      rw [hruns]
      exact hpass
    · exact getCatalog_accounted ih hin (Nat.le_of_lt_succ hs)

/-! ### Sessions -/

/-- **A command** changes the count by its calls only. -/
theorem command_accounted (c : Command) (s : State) :
    Accounted s.runs.value (c.calls s) (c.run s).2.runs.value := by
  have hcalls := passes_accounted (totalWeight s.callbacks)
  have hin : InnerPays (Payable (totalWeight s.callbacks)) (passes (totalWeight s.callbacks)) :=
    passes_payable _ _
  have hs : Light (totalWeight s.callbacks) s := Nat.le_refl _
  have hidle : ∀ {t : State}, t.runs = s.runs → Accounted s.runs.value [] t.runs.value := by
    intro t ht
    rw [ht]
    exact Accounted.nil _
  cases c with
  | populate needsInitial items =>
    rw [Command.run, answer_snd, nested_run]
    exact populateCatalog_accounted hcalls hin needsInitial items hs
  | bestEffort =>
    rw [Command.run, answer_snd, nested_run]
    exact bestEffort_accounted hcalls hin hs
  | getCatalog =>
    rw [Command.run, answer_snd, nested_run]
    exact getCatalog_accounted hcalls hin hs
  | tell =>
    rw [Command.run, answer_snd, nested_run]
    exact tellAll_accounted hcalls hin hs
  | applyLoadMode =>
    refine hidle ?_
    rw [Command.run, answer_snd, applyLoadMode_run]
    rfl
  | populateInitial name => exact hidle (populateInitial_comes name s).inputs.runs
  | populateAdditions name => exact hidle (populateAdditions_comes name s).inputs.runs
  | install new message preferNew =>
    exact hidle (installed_comes new message preferNew s).inputs.runs
  | enter context => exact hidle rfl

/-- **The count of passes.** In every session, whatever fails in it, the calls that may start a
pass, nested ones too, take the count from one to the next: each pass adds exactly one when it ends,
after what the passes in it have added, and nothing else changes the count. So the count goes up by
the number of calls that populate the catalog, and of best efforts that find the slot empty when
they install their catalog. -/
theorem session_accounted (commands : List Command) (s : State) :
    Accounted s.runs.value (sessionCalls commands s) (session commands s).2.runs.value ∧
    (session commands s).2.runs.value = s.runs.value +
      (allKinds (sessionCalls commands s)).count .populate +
      (allKinds (sessionCalls commands s)).count (.bestEffort true) ∧
    CallKind.refused ∉ allKinds (sessionCalls commands s) := by
  have h : Accounted s.runs.value (sessionCalls commands s)
      (session commands s).2.runs.value := by
    induction commands generalizing s with
    | nil => exact Accounted.nil _
    | cons c rest ih => exact (command_accounted c s).append (ih (c.run s).2)
  exact ⟨h, h.number⟩

example : allKinds (sessionCalls [.bestEffort, .bestEffort]
    { settings := { disallowLocal := true }, callbacks := [.populates 1] }) =
    [.bestEffort true, .populate, .bestEffort false] := by
  decide +kernel

-- A callback starts a pass on its first turn and fails on the next one. It is told in the pass that
-- it starts, too, catches the failure of that, and both passes count.
example : (session [.bestEffort]
    { settings := { disallowLocal := true }
      callbacks := [.turns 1 (.recovers (.populates 1) .quiet) (.fails (.failure .runtime "stop"))]
        }).2.runs.value = 2 := by
  decide +kernel

end ItemCatalog.Population
