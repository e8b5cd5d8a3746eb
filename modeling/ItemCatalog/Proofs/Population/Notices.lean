import ItemCatalog.Proofs.Population.FatalFaults

/-! # Notices: whom a pass tells, and in which order

While callbacks are told about a pass they change: they are spent, they add others at the end, and
the passes that they start tell them again. What stays is the place of a callback, and what it would
do with times left (`Callback.idle`). A notice is a callback at its place, in the state in which it
is told; `Tells` says which notices there are from a place on, and how that ends.

* `tellAll_tells`: telling the callbacks of a state is one run of `Tells`, which only ends at the
  end of the list or with a failure;
* `Tells.places`, `Tells.callbacks`, `Tells.calls`, `Tells.of_ok`, `Tells.of_error`: what a run
  comes to, by induction on it;
* `session_tells_in_order`: the passes of sessions, with those that callbacks start. -/

namespace ItemCatalog.Population

open Step

/-! ### What stays of a callback -/

/-- A callback without any times left: what stays the same of it when it is told. -/
def Callback.idle : Callback → Callback
  | .quiet => .quiet
  | .fails e => .fails e
  | .populates _ => .populates 0
  | .asks _ => .asks 0
  | .clears _ => .clears 0
  | .adds item _ => .adds item 0
  | .registers other _ => .registers other 0
  | .both c d => .both c.idle d.idle
  | .recovers c d => .recovers c.idle d.idle
  | .turns _ c d => .turns 0 c.idle d.idle

theorem turn_idle (c : Callback) : c.turn.2.idle = c.idle := by
  induction c with
  | quiet | fails e => rfl
  | populates n | asks n | clears n | adds _ n | registers _ n _ => cases n <;> rfl
  | both c d ihc ihd | recovers c d ihc ihd =>
    simp only [Callback.turn, Callback.idle, ihc, ihd]
  | turns n c d ihc ihd =>
    cases n <;> simp only [Callback.turn, Callback.idle, ihc, ihd]

theorem idle_at {cs : List Callback} {place : Nat} {c : Callback} (h : cs[place]? = some c) :
    (cs.map Callback.idle)[place]? = some c.idle := by
  rw [List.getElem?_map, h, Option.map_some]

/-- A callback that takes its turn stays what it is, at its place. -/
theorem told_idle {s : State} {place : Nat} {c : Callback} (hplace : s.callbacks[place]? = some c) :
    (s.told place c.turn.2).callbacks.map Callback.idle = s.callbacks.map Callback.idle := by
  show (s.callbacks.set place c.turn.2).map Callback.idle = s.callbacks.map Callback.idle
  obtain ⟨hlt, hat⟩ := List.getElem?_eq_some_iff.mp (idle_at hplace)
  rw [List.map_set, turn_idle, ← hat, List.set_getElem_self]

/-- The callbacks go on from these, and all that may still be told or is to be paid is at most so
much: a registration costs one more than the callback that it adds, and is told itself. -/
def Roomy (names : List Callback) (m k : Nat) (s : State) : Prop :=
  names <+: s.callbacks.map Callback.idle ∧ s.callbacks.length + totalWeight s.callbacks + k ≤ m

theorem roomy_installs (names : List Callback) (m k : Nat) : Installs (Roomy names m k) where
  say _ hs := hs
  look {s} hs := by
    have hsame : s.afterLook.callbacks = s.callbacks := (afterLook_inputs s).1.callbacks
    rw [Roomy, hsame]
    exact hs
  write _ hs := hs
  make hs := hs
  count hs := hs

theorem roomy_serves (names : List Callback) (m k : Nat) : Serves (Roomy names m k) where
  say _ _ hs := hs
  ask _ hs := hs
  loader _ hs := hs
  fetch _ _ hs := hs
  setCatalog _ _ hs := hs

/-- **The callbacks of a state** are never removed, and there is room for the ones that are
added. -/
theorem roomy_pays (names : List Callback) (m : Nat) : Pays (Roomy names m) where
  serves := roomy_serves names m
  places k := (roomy_installs names m k).places
  mode k s hs := by
    rw [applyLoadMode_run]
    exact hs
  call _ hs := hs
  clear hs := hs
  told {k s place c} hplace hs := by
    have hweight := told_weight hplace
    have hlength : (s.told place c.turn.2).callbacks.length = s.callbacks.length :=
      List.length_set
    refine ⟨(told_idle hplace).symm ▸ hs.1, ?_⟩
    have hroom := hs.2
    omega
  register {k s other} hs := by
    refine ⟨?_, ?_⟩
    · show names <+: (s.callbacks ++ [other]).map Callback.idle
      rw [List.map_append]
      exact hs.1.trans (List.prefix_append _ _)
    · show (s.callbacks ++ [other]).length + totalWeight (s.callbacks ++ [other]) + k ≤ m
      have hroom := hs.2
      rw [List.length_append, List.length_singleton, totalWeight_append_singleton]
      omega
  unspent {j k s} hs := ⟨hs.1, Nat.le_trans (Nat.add_le_add_left (Nat.le_add_left k j) _) hs.2⟩

theorem passes_roomy (names : List Callback) (m depth : Nat) :
    InnerPays (Roomy names m) (passes depth) :=
  passes_pays (roomy_pays names m) depth

/-! ### What is recorded of calls -/

section Calls

variable (P : List Call → Prop)

theorem calls_installs : Installs fun s => P s.trace.calls where
  say _ hs := hs
  look {s} hs := by
    have hsame : s.afterLook.trace = s.trace := by
      unfold State.afterLook
      split <;> rfl
    rw [hsame]
    exact hs
  write _ hs := hs
  make hs := hs
  count hs := hs

theorem calls_serves : Serves fun s => P s.trace.calls where
  say _ _ hs := hs
  ask _ hs := hs
  loader _ hs := hs
  fetch _ _ hs := hs
  setCatalog _ _ hs := hs

theorem applyLoadMode_calls : Keeps (fun s => P s.trace.calls) applyLoadMode := fun s hs => by
  rw [applyLoadMode_run]
  exact hs

end Calls

/-- **The record of calls** only gets longer. -/
theorem calls_pays (calls : List Call) : Pays fun _ s => calls <+: s.trace.calls where
  serves _ := calls_serves fun l => calls <+: l
  places _ := (calls_installs fun l => calls <+: l).places
  mode _ := applyLoadMode_calls fun l => calls <+: l
  call c hs := hs.trans (List.prefix_append _ [c])
  clear hs := hs
  told {_ _ place _} _ hs := hs.trans (List.prefix_append _ [Call.told place])
  register hs := hs
  unspent hs := hs

/-- Before the callbacks are told, no call is recorded. -/
theorem beforeTelling_calls (name : CatalogName) (needsInitial : Bool)
    (items : Option Catalog.Handover)
    (s : State) : (beforeTelling name needsInitial items s).2.trace.calls = s.trace.calls :=
  beforeTelling_keeps (calls_serves (· = s.trace.calls)) (applyLoadMode_calls (· = s.trace.calls))
    name needsInitial items s rfl

theorem starts_calls {c : Command} {s : State} {p : PassStart} (h : c.Starts s p) :
    p.state.trace.calls = s.trace.calls :=
  starts_keep (calls_installs (· = s.trace.calls)).places h rfl

/-- A single action that starts no pass records no call. -/
theorem taken_calls {inner : Inner} {d : Taken} (hsingle : d.action.kind ≠ .composite)
    (hnone : d.action.command? = none) : (d.run inner).2.trace.calls = d.state.trace.calls := by
  obtain ⟨place, action, s⟩ := d
  cases action with
  | populates n => cases hnone
  | asks n => cases hnone
  | adds item n =>
    exact addToInstalled_keeps (calls_serves (· = s.trace.calls))
      (fun _ => (calls_installs (· = s.trace.calls)).look) item s rfl
  | both | recovers | turns => exact absurd rfl hsingle
  | _ => rfl

theorem row_calls {inner : Inner} {s v : State} {ds : List Taken} (h : Row inner s ds v)
    (hnone : ∀ d ∈ ds, d.action.command? = none) : v.trace.calls = s.trace.calls := by
  induction h with
  | nil s => rfl
  | cons hsingle _ ih =>
    obtain ⟨hd, hrest⟩ := List.forall_mem_cons.mp hnone
    exact (ih hrest).trans (taken_calls hsingle hd)

/-! ### Notices -/

/-- A callback that is told about a pass: its place, what it is, and the state. -/
structure Notice where
  place : Nat
  callback : Callback
  state : State

namespace Notice

variable (n : Notice) (inner : Inner)

/-- What telling the callback gives and leaves. -/
def run : Except Fault Unit × State :=
  tell inner n.place n.callback n.state

/-- The single actions that the callback takes. -/
def taken : List Taken :=
  takenAt inner n.place n.callback n.state

/-- The calls that are recorded until the callback is done. -/
def calls : List Call :=
  (n.run inner).2.trace.calls.drop n.state.trace.calls.length

end Notice

/-- **Telling the callbacks** from a place on: the notices, the result, and the state that is left.
No callback is left, the next one fails, or it is done and the ones after it are told. -/
inductive Tells (inner : Inner) : Nat → State → List Notice → Except Fault Unit → State → Prop
  | done {place : Nat} {s : State} (h : s.callbacks.length ≤ place) :
      Tells inner place s [] (.ok ()) s
  | fails {place : Nat} {s t : State} {c : Callback} {e : Fault}
      (hplace : s.callbacks[place]? = some c) (htell : tell inner place c s = (.error e, t)) :
      Tells inner place s [⟨place, c, s⟩] (.error e) t
  | next {place : Nat} {s t v : State} {c : Callback} {ns : List Notice} {r : Except Fault Unit}
      (hplace : s.callbacks[place]? = some c) (htell : tell inner place c s = (.ok (), t))
      (hrest : Tells inner (place + 1) t ns r v) : Tells inner place s (⟨place, c, s⟩ :: ns) r v

/-- **Callbacks are told** as `Tells` says: what may still be told is enough to come to the end of
the list, by induction on it. -/
theorem tellFrom_tells {depth count place : Nat} {s : State}
    (hroom : s.callbacks.length + totalWeight s.callbacks ≤ place + count) :
    ∃ ns, Tells (passes depth) place s ns (tellFrom (passes depth) count place s).1
        (tellFrom (passes depth) count place s).2 ∧
      actionsFrom (passes depth) count place s = ns.flatMap (Notice.taken · (passes depth)) := by
  induction count generalizing place s with
  | zero => exact ⟨[], Tells.done (by omega), rfl⟩
  | succ count ih =>
    cases hplace : s.callbacks[place]? with
    | none =>
      rw [tellFrom_of_none hplace, actionsFrom, hplace]
      exact ⟨[], Tells.done (List.getElem?_eq_none_iff.mp hplace), rfl⟩
    | some c =>
      have hkept : Roomy [] (place + (count + 1)) 0 (tell (passes depth) place c s).2 :=
        tell_pays (roomy_pays [] _) (passes_roomy [] _ depth) hplace ⟨List.nil_prefix, hroom⟩
      rw [tellFrom_of_some hplace, bind_run]
      rcases htell : tell (passes depth) place c s with ⟨e | _, t⟩
      · refine ⟨_, Tells.fails hplace htell, ?_⟩
        rw [actionsFrom_of_error hplace htell, List.flatMap_singleton]
        rfl
      · rw [htell] at hkept
        have hroom : t.callbacks.length + totalWeight t.callbacks ≤ place + 1 + count :=
          hkept.2.trans_eq (Nat.add_right_comm place count 1)
        obtain ⟨ns, htells, hrest⟩ := ih hroom
        refine ⟨_, Tells.next hplace htell htells, ?_⟩
        rw [actionsFrom_of_ok hplace htell, hrest, List.flatMap_cons]
        rfl

theorem tellAll_tells (depth : Nat) (s : State) :
    ∃ ns, Tells (passes depth) 0 s ns (tellAll (passes depth) s).1 (tellAll (passes depth) s).2 ∧
      s.actions (passes depth) = ns.flatMap (Notice.taken · (passes depth)) :=
  tellFrom_tells (by omega)

/-- The calls of a notice: the callback is told first, and if it starts no pass, that is all. -/
theorem Notice.calls_eq (n : Notice) (depth : Nat) :
    n.state.trace.calls ++ n.calls (passes depth) = (n.run (passes depth)).2.trace.calls ∧
    ∃ within, n.calls (passes depth) = .told n.place :: within ∧
      ((∀ d ∈ n.taken (passes depth), d.action.command? = none) → within = []) := by
  obtain ⟨place, c, s⟩ := n
  -- Whatever follows, the notice itself is recorded before it.
  have hkept : s.trace.calls ++ [.told place] <+: (tell (passes depth) place c s).2.trace.calls :=
    act_pays (I := fun _ u => s.trace.calls ++ [.told place] <+: u.trace.calls) (k := 0)
      (calls_pays _) (passes_pays (calls_pays _) depth) place List.prefix_rfl
  have hfirst : ∃ within, (tell (passes depth) place c s).2.trace.calls =
      s.trace.calls ++ .told place :: within ∧
      ((∀ d ∈ takenAt (passes depth) place c s, d.action.command? = none) → within = []) := by
    obtain ⟨within, hwithin⟩ := hkept
    refine ⟨within, by rw [← hwithin, List.append_assoc, List.singleton_append], fun hnone => ?_⟩
    have hsame : (tell (passes depth) place c s).2.trace.calls = s.trace.calls ++ [.told place] :=
      row_calls (tell_row (passes depth) place c s) hnone
    exact List.append_right_eq_self.mp (hwithin.trans hsame)
  obtain ⟨within, hcalls, hnone⟩ := hfirst
  have hdrop : Notice.calls ⟨place, c, s⟩ (passes depth) = .told place :: within := by
    rw [Notice.calls, Notice.run, hcalls, List.drop_left]
  exact ⟨by rw [hdrop, Notice.run, hcalls], within, hdrop, hnone⟩

/-! ### What the notices come to -/

namespace Tells

variable {depth place : Nat} {s v : State} {ns : List Notice} {r : Except Fault Unit}

/-- A run keeps what telling each of the callbacks keeps. -/
theorem pays {I : Nat → State → Prop} (hI : Pays I) (h : Tells (passes depth) place s ns r v)
    (hs : I 0 s) : I 0 v := by
  have hin : InnerPays I (passes depth) := passes_pays hI depth
  induction h with
  | done _ => exact hs
  | fails hplace htell =>
    have ht := tell_pays hI hin hplace hs
    rwa [htell] at ht
  | next hplace htell _ ih =>
    have ht := tell_pays hI hin hplace hs
    rw [htell] at ht
    exact ih ht

/-- Every place is told once, in order. -/
theorem places {inner : Inner} (h : Tells inner place s ns r v) :
    ns.map Notice.place = List.range' place ns.length := by
  induction h with
  | done _ => rfl
  | fails _ _ => rfl
  | next _ _ _ ih => rw [List.map_cons, ih, List.length_cons, List.range'_succ]

/-- The callback at a place stays there until the end. -/
theorem callback_at (h : Tells (passes depth) place s ns r v) {i : Nat} {c : Callback}
    (hi : s.callbacks[i]? = some c) : (v.callbacks.map Callback.idle)[i]? = some c.idle := by
  have hkept := h.pays (roomy_pays (s.callbacks.map Callback.idle) _)
    ⟨List.prefix_rfl, Nat.le_refl _⟩
  obtain ⟨added, hadded⟩ := hkept.1
  have hmap := idle_at hi
  rw [← hadded, List.getElem?_append_left (List.getElem?_eq_some_iff.mp hmap).1, hmap]

/-- **The callbacks that are told** are the first ones from the place on, of those that there are in
the end. -/
theorem callbacks (h : Tells (passes depth) place s ns r v) :
    ns.map (fun n => n.callback.idle) <+: (v.callbacks.map Callback.idle).drop place := by
  induction h with
  | done _ => exact List.nil_prefix
  | fails hplace htell =>
    obtain ⟨hlt, hat⟩ := List.getElem?_eq_some_iff.mp
      ((Tells.fails hplace htell).callback_at hplace)
    rw [List.drop_eq_getElem_cons hlt, hat]
    exact ⟨_, rfl⟩
  | next hplace htell hrest ih =>
    obtain ⟨hlt, hat⟩ := List.getElem?_eq_some_iff.mp
      ((Tells.next hplace htell hrest).callback_at hplace)
    rw [List.drop_eq_getElem_cons hlt, hat]
    exact (List.prefix_cons_inj _).mpr ih

/-- The calls that are recorded are those of the notices, one after the other. -/
theorem calls (h : Tells (passes depth) place s ns r v) :
    v.trace.calls = s.trace.calls ++ ns.flatMap fun n => n.calls (passes depth) := by
  induction h with
  | done _ => exact (List.append_nil _).symm
  | @fails place s t c e hplace htell =>
    have hfirst := (Notice.calls_eq ⟨place, c, s⟩ depth).1
    rw [Notice.run, htell] at hfirst
    rw [List.flatMap_singleton]
    exact hfirst.symm
  | @next place s t v c ns r hplace htell hrest ih =>
    have hfirst := (Notice.calls_eq ⟨place, c, s⟩ depth).1
    rw [Notice.run, htell] at hfirst
    rw [ih, List.flatMap_cons, ← List.append_assoc, hfirst]

/-- If no callback fails, none is left in the end. -/
theorem of_ok {inner : Inner} (h : Tells inner place s ns r v) (hr : r = .ok ()) :
    (∀ n ∈ ns, (n.run inner).1 = .ok ()) ∧ v.callbacks.length ≤ place + ns.length := by
  induction h with
  | done h => exact ⟨fun _ hn => absurd hn List.not_mem_nil, h⟩
  | fails _ _ => cases hr
  | next hplace htell _ ih =>
    obtain ⟨hrest, hlength⟩ := ih hr
    refine ⟨List.forall_mem_cons.mpr ⟨congrArg Prod.fst htell, hrest⟩, ?_⟩
    rw [List.length_cons]
    omega

/-- A failure is that of the last callback, and no other one failed. -/
theorem of_error {inner : Inner} (h : Tells inner place s ns r v) {e : Fault}
    (hr : r = .error e) : ∃ before last, ns = before ++ [last] ∧
      (∀ n ∈ before, (n.run inner).1 = .ok ()) ∧ last.run inner = (.error e, v) := by
  induction h with
  | done _ => cases hr
  | fails hplace htell =>
    cases hr
    exact ⟨[], _, rfl, fun _ hn => absurd hn List.not_mem_nil, htell⟩
  | @next place s t v c ns r hplace htell _ ih =>
    obtain ⟨before, last, rfl, hbefore, hlast⟩ := ih hr
    exact ⟨⟨place, c, s⟩ :: before, last, rfl,
      List.forall_mem_cons.mpr ⟨congrArg Prod.fst htell, hbefore⟩, hlast⟩

end Tells

/-- **The callbacks are told in order** from a state on, with a result and the state that is left.
The notices are about the places from the first on, each once, and about the first callbacks of the
list as it is in the end. What is recorded of calls is what they lead to, one after the other: the
notice itself, and what the passes record that its callback starts. Without a failure, the notices
are about the whole list; a failure is that of the last callback, as it was raised, and ends the
telling there. -/
structure InOrder (inner : Inner) (u : State) (ns : List Notice) (r : Except Fault Unit)
    (v : State) : Prop where
  tells : Tells inner 0 u ns r v
  places : ns.map Notice.place = List.range ns.length
  callbacks : ns.map (fun n => n.callback.idle) <+: v.callbacks.map Callback.idle
  calls : v.trace.calls = u.trace.calls ++ ns.flatMap fun n => n.calls inner
  own : ∀ n ∈ ns, ∃ within, n.calls inner = .told n.place :: within ∧
    ((∀ d ∈ n.taken inner, d.action.command? = none) → within = [])
  whole : r = .ok () →
    (∀ n ∈ ns, (n.run inner).1 = .ok ()) ∧ ns.length = v.callbacks.length
  failed : ∀ e, r = .error e → ∃ before last, ns = before ++ [last] ∧
    (∀ n ∈ before, (n.run inner).1 = .ok ()) ∧ last.run inner = (.error e, v)

theorem Tells.inOrder {depth : Nat} {u v : State} {ns : List Notice} {r : Except Fault Unit}
    (h : Tells (passes depth) 0 u ns r v) : InOrder (passes depth) u ns r v where
  tells := h
  places := h.places.trans List.range_eq_range'.symm
  callbacks := h.callbacks
  calls := h.calls
  own n _ := (n.calls_eq depth).2
  whole hr := by
    obtain ⟨hdone, hlength⟩ := h.of_ok hr
    have hprefix := h.callbacks.length_le
    rw [List.drop_zero, List.length_map, List.length_map] at hprefix
    exact ⟨hdone, by omega⟩
  failed e hr := h.of_error hr

/-! ### Passes -/

/-- The pass that a command starts, with the passes that can be started in it; other commands start
none. -/
def Command.pass (inner : Inner) : Command → Step Unit
  | .populate needsInitial items => discard (populateCatalog inner needsInitial items)
  | .bestEffort => discard (Population.bestEffort inner)
  | .getCatalog => discard (Population.getCatalog inner)
  | _ => return

/-- The stages of a pass before the callbacks are told. -/
def PassStart.before (p : PassStart) : Except Fault Unit × State :=
  beforeTelling p.name p.needsInitial p.items p.state

theorem PassStart.run_of_ok {p : PassStart} {u : State} (h : p.before = (.ok (), u))
    (inner : Inner) : p.run inner = tellAll inner u ∧ p.actions inner = u.actions inner := by
  rw [PassStart.before] at h
  rw [PassStart.run, stages_eq_bind, bind_run, PassStart.actions, stagesActions, h]
  exact ⟨rfl, rfl⟩

theorem PassStart.run_of_error {p : PassStart} {e : Fault} {u : State}
    (h : p.before = (.error e, u)) (inner : Inner) : p.run inner = (.error e, u) := by
  rw [PassStart.before] at h
  rw [PassStart.run, stages_eq_bind, bind_run, h]

/-- A pass that fails ends where its stages do, and is counted. -/
theorem pass_of_error {c : Command} {s t : State} {p : PassStart} {inner : Inner} {e : Fault}
    (hstarts : c.Starts s p) (h : p.run inner = (.error e, t)) :
    c.pass inner s = (.error e, t.count) := by
  cases hstarts with
  | populate needsInitial items =>
    rw [Command.pass, discard_run, populateCatalog_of_error h]
    rfl
  | bestEffort hinstalls =>
    rw [Command.pass, discard_run, bestEffort_of_error hinstalls h]
    rfl
  | getCatalog hslot hattached hinstalls =>
    rw [Command.pass, discard_run, getCatalog_of_error hslot hattached hinstalls h]
    rfl

theorem bestEffort_result {s : State} (hinstalls : s.installs = true) (inner : Inner) :
    ((bestEffort inner s).1.map fun _ => ()) = ((PassStart.ofBestEffort s).run inner).1 := by
  rw [bestEffort_of_installs hinstalls, bind_run, counted_run, PassStart.run,
    PassStart.ofBestEffort]
  rcases stages inner s.afterLook.catalogs.length true none s.early.2 with ⟨e | _, t⟩ <;> rfl

/-- A pass gives what its stages give. -/
theorem pass_result {c : Command} {s : State} {p : PassStart} (hstarts : c.Starts s p)
    (inner : Inner) : (c.pass inner s).1 = (p.run inner).1 := by
  cases hstarts with
  | populate needsInitial items =>
    rw [Command.pass, discard_run, pass_run, PassStart.run, PassStart.ofPopulate]
    rcases stages inner s.targetName needsInitial items (target s).2 with ⟨e | _, t⟩ <;> rfl
  | bestEffort hinstalls =>
    rw [Command.pass, discard_run]
    exact bestEffort_result hinstalls inner
  | getCatalog hslot hattached hinstalls =>
    rw [Command.pass, discard_run, getCatalog_of_none hslot, if_pos hattached]
    exact bestEffort_result hinstalls inner

/-- **A pass in order:** if a stage before the callbacks fails, so does the pass, and nobody is
told; else it gives what telling the callbacks in order gives. -/
structure Orderly (inner : Inner) (c : Command) (t : State) (p : PassStart) : Prop where
  unreached : ∀ {e u}, p.before = (.error e, u) →
    c.pass inner t = (.error e, u.count) ∧ u.trace.calls = t.trace.calls
  reached : ∀ {u}, p.before = (.ok (), u) → u.trace.calls = t.trace.calls ∧
    ∃ ns v, p.run inner = ((c.pass inner t).1, v) ∧
      InOrder inner u ns (c.pass inner t).1 v ∧
      p.actions inner = ns.flatMap (Notice.taken · inner) ∧
      ∀ e, (c.pass inner t).1 = .error e → (c.pass inner t).2 = v.count

theorem starts_orderly {c : Command} {t : State} {p : PassStart} (hstarts : c.Starts t p)
    (depth : Nat) : Orderly (passes depth) c t p := by
  have hcalls : ∀ {r : Except Fault Unit} {u : State}, p.before = (r, u) →
      u.trace.calls = t.trace.calls := fun {r u} hbefore => by
    have hsame := beforeTelling_calls p.name p.needsInitial p.items p.state
    rw [← PassStart.before, hbefore] at hsame
    exact hsame.trans (starts_calls hstarts)
  refine ⟨fun {e u} hbefore => ⟨?_, hcalls hbefore⟩, fun {u} hbefore => ⟨hcalls hbefore, ?_⟩⟩
  · exact pass_of_error hstarts (p.run_of_error hbefore _)
  · obtain ⟨hrun, hactions⟩ := p.run_of_ok hbefore (passes depth)
    obtain ⟨ns, htells, hnotices⟩ := tellAll_tells depth u
    rw [pass_result hstarts, hactions, hrun]
    refine ⟨ns, _, rfl, htells.inOrder, hnotices, fun e he => ?_⟩
    have hend : p.run (passes depth) = (.error e, (tellAll (passes depth) u).2) :=
      hrun.trans (Prod.ext he rfl)
    exact congrArg Prod.snd (pass_of_error hstarts hend)

/-! ### Sessions -/

/-- **The passes of a session**, also those that callbacks start: a command is given in a state, in
which passes can be nested so deep. The session gives it, or a callback that is told without a pass,
or about one. -/
inductive CallIn (commands : List Command) (s : State) : Nat → Command → State → Prop
  | command (before after : List Command) {c : Command} (h : commands = before ++ c :: after) :
      CallIn commands s (totalWeight (session before s).2.callbacks) c (session before s).2
  | told {depth : Nat} {t : State} {d : Taken} {c : Command} (h : CallIn commands s depth .tell t)
      (hd : d ∈ t.actions (passes depth)) (hc : d.action.command? = some c) :
      CallIn commands s (depth - 1) c d.state
  | nested {depth : Nat} {t : State} {c c' : Command} {p : PassStart} {d : Taken}
      (h : CallIn commands s depth c t) (hstarts : c.Starts t p)
      (hd : d ∈ p.actions (passes depth)) (hc : d.action.command? = some c') :
      CallIn commands s (depth - 1) c' d.state

/-- Where a callback starts a pass, passes can be nested one deeper at least, and what is left for
the pass is enough for its callbacks. -/
theorem nested_light {depth : Nat} {t : State} {c c' : Command} {p : PassStart} {d : Taken}
    (ht : Light depth t) (hstarts : c.Starts t p) (hd : d ∈ p.actions (passes depth))
    (hc : d.action.command? = some c') : 0 < depth ∧ Light (depth - 1) d.state := by
  have hlight := starts_keep light_installs.places hstarts ht
  exact action_light (mem_stagesActions_weight (passes_payable depth depth) hlight hd) hc

/-- The callbacks cannot nest passes deeper than they may. -/
theorem CallIn.light {commands : List Command} {s t : State} {depth : Nat} {c : Command}
    (h : CallIn commands s depth c t) : Light depth t := by
  induction h with
  | command _ _ _ => exact Nat.le_refl _
  | told _ hd hc ih => exact (action_light (mem_actionsFrom_weight (passes_payable _ _) ih hd) hc).2
  | nested _ hstarts hd hc ih => exact (nested_light ih hstarts hd hc).2

/-- What passes keep, with allowances, holds wherever a command is given if it holds between the
commands of the session. -/
theorem CallIn.keeps {I : Nat → State → Prop} (hI : Pays I) {commands : List Command} {s t : State}
    {depth : Nat} {c : Command}
    (hsession : ∀ before c after, commands = before ++ c :: after → I 0 (session before s).2)
    (h : CallIn commands s depth c t) : I 0 t := by
  have hin := passes_pays hI
  induction h with
  | command before after h => exact hsession _ _ _ h
  | told _ hd _ ih => exact hI.unspent (mem_actionsFrom_pays hI (hin _) ih hd)
  | nested _ hstarts hd _ ih =>
    exact hI.unspent (mem_stagesActions_pays hI (hin _) (starts_keep (hI.places 0) hstarts ih) hd)

/-- What an action comes to that starts a pass: its result is that of the pass, and of calls only
what the callback got is recorded after those of the pass. -/
structure Taken.Passes (d : Taken) (c : Command) (depth : Nat) : Prop where
  result : (act (passes depth) d.place d.action d.state).1 =
    (c.pass (passes (depth - 1)) d.state).1
  calls : ∃ got, (act (passes depth) d.place d.action d.state).2.trace.calls =
    (c.pass (passes (depth - 1)) d.state).2.trace.calls ++ got ∧ ∀ place, .told place ∉ got

theorem taken_passes {d : Taken} {c : Command} (hc : d.action.command? = some c) (depth : Nat) :
    d.Passes c (depth + 1) := by
  obtain ⟨place, action, s⟩ := d
  cases action with
  | populates n =>
    cases hc
    exact ⟨rfl, [], (List.append_nil _).symm, fun _ => List.not_mem_nil⟩
  | asks n =>
    cases hc
    have hact : act (passes (depth + 1)) place (.asks n) s =
        (getCatalog (passes depth) >>= fun name => modify fun t => t.call (.got place name)) s :=
      rfl
    have hpass : Command.getCatalog.pass (passes (depth + 1 - 1)) s =
        discard (getCatalog (passes depth)) s := rfl
    constructor <;> simp only [hact, hpass, bind_run, discard_run]
    all_goals rcases getCatalog (passes depth) s with ⟨e | name, t⟩
    · rfl
    · rfl
    · exact ⟨[], (List.append_nil _).symm, fun _ => List.not_mem_nil⟩
    · exact ⟨[.got place name], rfl, by simp⟩
  | _ => cases hc

/-- **The order of callbacks.** Every pass of a session that comes to the callbacks tells them in
order, each place once: all of them, those that are added meanwhile, too, or up to the one that
fails, whose failure is that of the pass. A pass that fails before tells nobody. The passes that
callbacks start meanwhile are passes of the session, too, and each is what its callback does. -/
theorem session_tells_in_order {commands : List Command} {s t : State} {depth : Nat} {c : Command}
    {p : PassStart} (h : CallIn commands s depth c t) (hstarts : c.Starts t p) :
    Orderly (passes depth) c t p ∧
    ∀ d ∈ p.actions (passes depth), ∀ c', d.action.command? = some c' →
      CallIn commands s (depth - 1) c' d.state ∧ d.Passes c' depth := by
  refine ⟨starts_orderly hstarts depth, fun d hd c' hc => ⟨h.nested hstarts hd hc, ?_⟩⟩
  obtain ⟨hpos, -⟩ := nested_light h.light hstarts hd hc
  obtain ⟨depth, rfl⟩ := Nat.exists_eq_add_one.mpr hpos
  exact taken_passes hc depth

/-- A state in which the first callback starts a pass, and the second one adds one that fails. -/
def failingState : State where
  settings := { disallowLocal := true }
  callbacks := [.populates 1, .registers (.fails (.failure .runtime "stop")) 1, .quiet]

/-- In the pass that the first callback starts, the callback that is added is told last, after all
the others, and its failure ends both passes. -/
theorem session_tells_in_order_of_added_callback : ∃ t,
    CallIn [.populate true none] failingState 2 (.populate true none) t ∧
    Orderly (passes 2) (.populate true none) t (.ofPopulate true none t) ∧
    ((Command.populate true none).pass (passes 2) t).1 = .error (.failure .runtime "stop") ∧
    ((Command.populate true none).pass (passes 2) t).2.trace.calls =
      [.told 0, .told 0, .told 1, .told 2, .told 3] ∧
    (session [.populate true none] failingState).1 =
      [.name (.error (.failure .runtime "stop"))] := by
  have houter : CallIn [.populate true none] failingState 3 (.populate true none)
    failingState := CallIn.command [] [] rfl
  obtain ⟨d, hd, hcommand, hresult, hcalls⟩ : ∃ d,
      ((PassStart.ofPopulate true none failingState).actions (passes 3))[0]? = some d ∧
      d.action.command? = some (.populate true none) ∧
      ((Command.populate true none).pass (passes 2) d.state).1 = .error (.failure .runtime "stop") ∧
      ((Command.populate true none).pass (passes 2) d.state).2.trace.calls =
        [.told 0, .told 0, .told 1, .told 2, .told 3] := ⟨_, rfl, rfl, rfl, rfl⟩
  have hinner := ((session_tells_in_order houter (.populate true none _)).2 d
    (List.mem_of_getElem? hd) _ hcommand).1
  have horderly := (session_tells_in_order hinner (.populate true none _)).1
  exact ⟨d.state, hinner, horderly, hresult, hcalls, rfl⟩

end ItemCatalog.Population
