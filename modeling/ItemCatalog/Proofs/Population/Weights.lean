import ItemCatalog.Proofs.Population.Passes
import Mathlib.Order.Basic

/-! # Weights: how many actions callbacks can still take

Every action that a callback takes has a cost, which makes the callback lighter by as much; the cost
of registering another callback covers the weight of that one. An invariant with an allowance is
kept by a pass if its parts keep it without any allowance, but for the actions of callbacks, which
may use up what they cost (`Pays`). So the callbacks together never get heavier, whatever a pass
does. An action that starts a pass leaves them lighter than before, so that passes are never nested
deeper than the weight says. -/

namespace ItemCatalog.Population

open Step

/-! ### Weights of lists -/

theorem totalWeight_cons (c : Callback) (cs : List Callback) :
    totalWeight (c :: cs) = c.weight + totalWeight cs := by
  unfold totalWeight
  rw [List.map_cons, List.foldl_cons, Nat.add_comm, List.foldl_assoc]

theorem totalWeight_append_singleton (cs : List Callback) (c : Callback) :
    totalWeight (cs ++ [c]) = totalWeight cs + c.weight := by
  unfold totalWeight
  rw [List.map_append, List.foldl_append]
  rfl

/-- A callback in the place of another one changes the weight by the difference of the two. -/
theorem totalWeight_set {cs : List Callback} {place : Nat} {c : Callback}
    (h : cs[place]? = some c) (d : Callback) :
    totalWeight (cs.set place d) + c.weight = totalWeight cs + d.weight := by
  induction cs generalizing place with
  | nil => cases h
  | cons b cs ih =>
    cases place with
    | zero =>
      obtain rfl := Option.some.inj h
      rw [List.set_cons_zero, totalWeight_cons, totalWeight_cons]
      omega
    | succ place =>
      have hrest : totalWeight (cs.set place d) + c.weight = totalWeight cs + d.weight := ih h
      rw [List.set_cons_succ, totalWeight_cons, totalWeight_cons]
      omega

/-- What the action of a callback costs. -/
def Callback.cost : Callback → Nat
  | .quiet => 0
  | .fails _ => 0
  | .registers other _ => other.weight + 2
  | .both c d => c.cost + d.cost
  | .recovers c d => c.cost + d.cost
  | .turns 0 _ d => d.cost
  | .turns (_ + 1) c _ => c.cost
  | _ => 1

/-- A callback that takes its turn gets lighter by what its action costs. -/
theorem turn_weight (c : Callback) : c.turn.2.weight + c.turn.1.cost = c.weight := by
  induction c with
  | quiet | fails e => rfl
  | populates n | asks n | clears n | adds _ n => cases n <;> rfl
  | registers other n =>
    cases n with
    | zero => rfl
    | succ n => simp only [Callback.turn, Callback.weight, Callback.cost, Nat.succ_mul]
  | both c d ihc ihd | recovers c d ihc ihd =>
    simp only [Callback.turn, Callback.weight, Callback.cost]
    omega
  | turns n c d ihc ihd =>
    cases n <;> simp only [Callback.turn, Callback.weight] <;> omega

/-! ### Telling -/

section Telling

variable {inner : Inner} {s : State} {place : Nat} {c : Callback}

/-- The state in which the callback of a place takes its action: it was told, and it has one time
less to go. -/
def State.told (s : State) (place : Nat) (rest : Callback) : State :=
  { s.call (.told place) with callbacks := s.callbacks.set place rest }

/-- **Telling a callback** is its action, once its turn is spent. -/
theorem tell_run (place : Nat) :
    tell inner place c s = act inner place c.turn.1 (s.told place c.turn.2) := rfl

/-- By the time an action is taken, it is paid for. -/
theorem told_weight (hplace : s.callbacks[place]? = some c) :
    totalWeight (s.told place c.turn.2).callbacks + c.turn.1.cost = totalWeight s.callbacks := by
  have hset := totalWeight_set hplace c.turn.2
  have hpaid := turn_weight c
  show totalWeight (s.callbacks.set place c.turn.2) + c.turn.1.cost = totalWeight s.callbacks
  omega

end Telling

/-! ### What is kept while callbacks pay for their actions -/

/-- An invariant with an allowance. Telling a callback provides what its action costs, and only the
registration of another callback uses it up. -/
structure Pays (I : Nat → State → Prop) : Prop where
  serves : ∀ k, Serves (I k)
  places : ∀ k, Places (I k)
  mode : ∀ k, Keeps (I k) applyLoadMode
  call : ∀ {k s} c, I k s → I k (s.call c)
  clear : ∀ {k s}, I k s → I k (s.write none)
  told : ∀ {k s place c}, s.callbacks[place]? = some c → I k s →
    I (c.turn.1.cost + k) (s.told place c.turn.2)
  register : ∀ {k s other}, I (other.weight + 2 + k) s → I k (s.register other)
  unspent : ∀ {j k s}, I (j + k) s → I k s

/-- The passes that callbacks start keep an invariant with every allowance. -/
abbrev InnerPays (I : Nat → State → Prop) (inner : Inner) : Prop :=
  ∀ k, InnerKeeps (I k) inner

section Pays

variable {I : Nat → State → Prop} (hI : Pays I) {inner : Inner} (hin : InnerPays I inner)
  {s : State} {k : Nat}
include hI hin

/-- **An action** is covered by what it costs, by induction on what it is put together from. -/
theorem act_pays {action : Callback} (place : Nat) (hs : I (action.cost + k) s) :
    I k (act inner place action s).2 := by
  induction action generalizing k s with
  | quiet | fails e => exact hI.unspent hs
  | populates n => exact (hin k).populate s (hI.unspent hs)
  | asks n =>
    have hask : Keeps (I k) (act inner place (.asks n)) :=
      (hin k).ask.bind fun name => Keeps.modify fun t ht => hI.call _ ht
    exact hask s (hI.unspent hs)
  | clears n => exact hI.clear (hI.unspent hs)
  | adds item n =>
    exact addToInstalled_keeps (hI.serves k) (fun _ => (hI.places k).look) item s (hI.unspent hs)
  | registers other n => exact hI.register hs
  | both c d ihc ihd =>
    have hfirst : I (d.cost + k) (act inner place c s).2 := ihc (Nat.add_assoc _ _ k ▸ hs)
    show I k ((act inner place c >>= fun _ => act inner place d) s).2
    rw [bind_run]
    rcases hrun : act inner place c s with ⟨e | _, t⟩ <;> rw [hrun] at hfirst
    · exact hI.unspent hfirst
    · exact ihd hfirst
  | recovers c d ihc ihd =>
    have hfirst : I (d.cost + k) (act inner place c s).2 := ihc (Nat.add_assoc _ _ k ▸ hs)
    show I k (recover (act inner place c) (act inner place d) s).2
    rcases recover_cases (act inner place c) (act inner place d) s with h | ⟨e, t, hrun, -, h⟩
    · rw [h]
      exact hI.unspent hfirst
    · rw [hrun] at hfirst
      rw [h]
      exact ihd hfirst
  | turns n c d ihc ihd =>
    cases n with
    | zero => exact ihd hs
    | succ n => exact ihc hs

theorem tell_pays {place : Nat} {c : Callback} (hplace : s.callbacks[place]? = some c)
    (hs : I k s) : I k (tell inner place c s).2 :=
  act_pays hI hin place (hI.told hplace hs)

theorem tellFrom_pays (count place : Nat) : Keeps (I k) (tellFrom inner count place) := by
  induction count generalizing place with
  | zero => exact Keeps.pure ()
  | succ count ih =>
    refine Keeps.get_bind fun s hs => ?_
    cases hplace : s.callbacks[place]? with
    | none => exact hs
    | some c => exact Keeps.after (tell_pays hI hin hplace hs) fun _ => ih (place + 1)

/-- **The stages** keep what their work, the load mode and the actions of callbacks keep. -/
theorem stages_pays (name : CatalogName) (needsInitial : Bool) (items : Option Catalog.Handover) :
    Keeps (I k) (stages inner name needsInitial items) :=
  stages_keep_of_tellAll (hI.serves k) (hI.mode k)
    (Keeps.get_bind fun s hs => tellFrom_pays hI hin _ 0 s hs) name needsInitial items

omit hin in
/-- **Nested passes** keep what their stages keep. -/
theorem passes_pays (depth : Nat) : InnerPays I (passes depth) :=
  passes_keep_all hI.places (fun _ hin _ name => stages_pays hI hin name true none) depth

end Pays

/-! ### What callbacks weigh during a pass -/

/-- The callbacks of a state weigh no more than so much. -/
def Light (w : Nat) (s : State) : Prop :=
  totalWeight s.callbacks ≤ w

section Light

variable {w : Nat} {inner : Inner} {s : State}

/-- They do so with what is still to be paid. -/
def Payable (w k : Nat) (s : State) : Prop :=
  totalWeight s.callbacks + k ≤ w

theorem payable_installs (w k : Nat) : Installs (Payable w k) where
  say _ hs := hs
  look {s} hs := by
    have hsame : s.afterLook.callbacks = s.callbacks := (afterLook_inputs s).1.callbacks
    rw [Payable, hsame]
    exact hs
  write _ hs := hs
  make hs := hs
  count hs := hs

theorem payable_serves (w k : Nat) : Serves (Payable w k) where
  say _ _ hs := hs
  ask _ hs := hs
  loader _ hs := hs
  fetch _ _ hs := hs
  setCatalog _ _ hs := hs

theorem applyLoadMode_payable (w k : Nat) : Keeps (Payable w k) applyLoadMode := fun s hs => by
  rw [applyLoadMode_run]
  exact hs

theorem payable_pays (w : Nat) : Pays (Payable w) where
  serves := payable_serves w
  places k := (payable_installs w k).places
  mode := applyLoadMode_payable w
  call _ hs := hs
  clear hs := hs
  told {k s place c} hplace hs := by
    have hpaid := told_weight hplace
    have hroom : totalWeight s.callbacks + k ≤ w := hs
    show totalWeight (s.told place c.turn.2).callbacks + (c.turn.1.cost + k) ≤ w
    omega
  register {k s other} hs := by
    have hroom : totalWeight s.callbacks + (other.weight + 2 + k) ≤ w := hs
    show totalWeight (s.callbacks ++ [other]) + k ≤ w
    rw [totalWeight_append_singleton]
    omega
  unspent {j k s} hs := by
    have hroom : totalWeight s.callbacks + (j + k) ≤ w := hs
    show totalWeight s.callbacks + k ≤ w
    omega

theorem light_installs : Installs (Light w) := payable_installs w 0

theorem light_serves : Serves (Light w) := payable_serves w 0

theorem applyLoadMode_light : Keeps (Light w) applyLoadMode := applyLoadMode_payable w 0

theorem tell_light (hin : InnerPays (Payable w) inner) {place : Nat} {c : Callback}
    (hplace : s.callbacks[place]? = some c) (hs : Light w s) :
    Light w (tell inner place c s).2 :=
  tell_pays (payable_pays w) hin (k := 0) hplace hs

/-- **Nested passes** make the callbacks no heavier. -/
theorem passes_payable (w depth : Nat) : InnerPays (Payable w) (passes depth) :=
  passes_pays (payable_pays w) depth

end Light

end ItemCatalog.Population
