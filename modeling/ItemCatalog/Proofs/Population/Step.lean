import ItemCatalog.Population.State
import ItemCatalog.Proofs.Log.Console

/-! # Steps: what a step comes to, and what it keeps

A step takes a state to a result and a state. The run lemmas say what the building blocks of steps
come to; they are true by definition. `Keeps I p` says that `p` keeps an invariant, whatever it ends
with; it holds of a sequence if it holds of its parts. -/

namespace ItemCatalog.Population

variable {α β : Type}

/-! ### Reports -/

namespace State

variable {s : State} {log : List Log.Record}

/-- What a report comes to: nothing, or the fault of the console that does not take it. -/
def reported (s : State) (log : List Log.Record) : Except Fault Unit :=
  s.around.console.said log

/-- The state after a report: it is said up to what the console does not take. -/
def afterReport (s : State) (log : List Log.Record) : State :=
  s.say (s.around.console.take log).1

theorem reported_of_takes (h : s.around.console.Takes log) : s.reported log = .ok () :=
  Log.Console.said_of_takes h

theorem afterReport_of_takes (h : s.around.console.Takes log) : s.afterReport log = s.say log := by
  rw [afterReport, Log.Console.take_of_takes h]

/-- **A report is said** as a whole exactly if the console takes all of it. -/
theorem reported_eq_ok_iff : s.reported log = .ok () ↔ s.around.console.Takes log :=
  Log.Console.said_eq_ok_iff

theorem reported_eq_error_iff {e : Fault} :
    s.reported log = .error e ↔ (s.around.console.take log).2 = some e :=
  Log.Console.said_eq_error_iff

/-- What a report ends with is never fatal. -/
theorem isFatal_of_reported {e : Fault} (h : s.reported log = .error e) : e.isFatal = false :=
  (Log.Console.exists_refused (reported_eq_error_iff.mp h)).1

end State

/-! ### Runs -/

namespace Step

@[simp] theorem pure_run (a : α) (s : State) : (pure a : Step α) s = (.ok a, s) := rfl

@[simp] theorem bind_run (p : Step α) (f : α → Step β) (s : State) :
    (p >>= f) s = match p s with
      | (.ok a, t) => f a t
      | (.error e, t) => (.error e, t) := by
  change ExceptT.bindCont f (p s).1 (p s).2 = _
  rcases p s with ⟨e | a, t⟩ <;> rfl

theorem bind_of_ok {p : Step α} {f : α → Step β} {s : State} {a : α} (h : (p s).1 = .ok a) :
    (p >>= f) s = f a (p s).2 := by
  rw [bind_run, ← Prod.eta (p s), h]

theorem bind_of_error {p : Step α} {f : α → Step β} {s : State} {e : Fault}
    (h : (p s).1 = .error e) : (p >>= f) s = (.error e, (p s).2) := by
  rw [bind_run, ← Prod.eta (p s), h]

@[simp] theorem map_run (g : α → β) (p : Step α) (s : State) :
    (g <$> p) s = ((p s).1.map g, (p s).2) := by
  rw [map_eq_pure_bind, bind_run]
  rcases p s with ⟨e | a, t⟩ <;> rfl

@[simp] theorem discard_run (p : Step α) (s : State) :
    (discard p) s = ((p s).1.map fun _ => (), (p s).2) := map_run _ p s

@[simp] theorem get_run (s : State) : (get : Step State) s = (.ok s, s) := rfl

@[simp] theorem set_run (s t : State) : (set t : Step PUnit) s = (.ok ⟨⟩, t) := rfl

@[simp] theorem modify_run (g : State → State) (s : State) :
    (modify g : Step PUnit) s = (.ok ⟨⟩, g s) := rfl

@[simp] theorem throw_run (e : Fault) (s : State) : (throw e : Step α) s = (.error e, s) := rfl

@[simp] theorem ofExcept_run (r : Except Fault α) (s : State) :
    (ofExcept r : Step α) s = (r, s) := by
  cases r <;> rfl

theorem eq_ok_of_toOption {α : Type} {r : Except Fault α} {a : α} (h : r.toOption = some a) :
    r = .ok a := by
  cases r with
  | error e => cases h
  | ok b => exact congrArg Except.ok (Option.some.inj h)

@[simp] theorem say_run (log : List Log.Record) (s : State) :
    say log s = (.ok (), s.say log) := rfl

@[simp] theorem report_run (log : List Log.Record) (s : State) :
    report log s = (s.reported log, s.afterReport log) := rfl

theorem report_of_takes {log : List Log.Record} {s : State} (h : s.around.console.Takes log) :
    report log s = (.ok (), s.say log) := by
  rw [report_run, State.reported_of_takes h, State.afterReport_of_takes h]

/-- Plain records are reported as they are said. -/
theorem report_of_plain {log : List Log.Record} (h : ∀ r ∈ log, r.IsPlain) : report log = say log :=
  funext fun _ => report_of_takes (Log.Console.takes_plain h)

@[simp] theorem hasRun_run (s : State) : hasRun s = (.ok s.runs.hasRun, s) := rfl

@[simp] theorem look_run (s : State) : look s = (.ok s.context.slot, s.afterLook) := rfl

@[simp] theorem make_run (c : Catalog) (s : State) :
    make c s = (.ok s.catalogs.length, (s.make c).2) := rfl

theorem recover_run (p q : Step Unit) (s : State) :
    recover p q s = match p s with
      | (.ok _, t) => (.ok (), t)
      | (.error e, t) => if e.isFatal then (.error e, t) else q t := by
  unfold recover
  rcases hp : p s with ⟨e | a, t⟩ <;>
    simp only [tryCatch, tryCatchThe, MonadExceptOf.tryCatch, ExceptT.tryCatch, ExceptT.mk, bind,
      StateT.bind, hp]
  · split <;> rfl
  · rfl

section Recover

variable {p q : Step Unit} {s t : State} {e : Fault}

theorem recover_of_ok (h : p s = (.ok (), t)) : recover p q s = (.ok (), t) := by
  rw [recover_run, h]

theorem recover_of_fatal (h : p s = (.error e, t)) (he : e.isFatal = true) :
    recover p q s = (.error e, t) := by
  rw [recover_run, h]
  exact if_pos he

theorem recover_of_ordinary (h : p s = (.error e, t)) (he : e.isFatal = false) :
    recover p q s = q t := by
  rw [recover_run, h]
  exact if_neg (ne_true_of_eq_false he)

/-- What stands in the place of a step is taken from where that fails in an ordinary way. -/
theorem recover_cases (p q : Step Unit) (s : State) :
    recover p q s = p s ∨
      ∃ e t, p s = (.error e, t) ∧ e.isFatal = false ∧ recover p q s = q t := by
  rcases h : p s with ⟨e | a, t⟩
  · cases he : e.isFatal with
    | true => exact Or.inl (recover_of_fatal h he)
    | false => exact Or.inr ⟨e, t, rfl, he, recover_of_ordinary h he⟩
  · exact Or.inl (recover_of_ok h)

end Recover

@[simp] theorem counted_run (p : Step α) (s : State) :
    counted p s = ((p s).1, (p s).2.count) := rfl

end Step

/-! ### What a step keeps -/

/-- A step keeps an invariant, whatever it ends with. -/
def Keeps (I : State → Prop) (p : Step α) : Prop :=
  ∀ s, I s → I (p s).2

namespace Keeps

variable {I : State → Prop} {p : Step α} {f : α → Step β}

theorem pure (a : α) : Keeps I (pure a : Step α) := fun _ hs => hs

theorem throw (e : Fault) : Keeps I (throw e : Step α) := fun _ hs => hs

theorem ofExcept (r : Except Fault α) : Keeps I (ofExcept r : Step α) := fun s hs => by
  rw [Step.ofExcept_run]
  exact hs

theorem modify {g : State → State} (hg : ∀ s, I s → I (g s)) :
    Keeps I (modify g : Step PUnit) := hg

/-- From where its first part ends, a sequence keeps what its second part keeps. -/
theorem after {s : State} (ht : I (p s).2) (hf : ∀ a, Keeps I (f a)) : I ((p >>= f) s).2 := by
  rw [Step.bind_run]
  rcases h : p s with ⟨e | a, t⟩ <;> rw [h] at ht
  · exact ht
  · exact hf a t ht

/-- From where a step fails, what stands in its place keeps an invariant. -/
theorem recovered {p q : Step Unit} {s : State} (ht : I (p s).2) (hq : Keeps I q) :
    I (Step.recover p q s).2 := by
  rcases Step.recover_cases p q s with h | ⟨e, t, hp, -, h⟩
  · rwa [h]
  · rw [hp] at ht
    rw [h]
    exact hq t ht

theorem recover {p q : Step Unit} (hp : Keeps I p) (hq : Keeps I q) :
    Keeps I (Step.recover p q) := fun s hs => recovered (hp s hs) hq

theorem bind (hp : Keeps I p) (hf : ∀ a, Keeps I (f a)) : Keeps I (p >>= f) :=
  fun s hs => after (hp s hs) hf

/-- After a look at the state, the invariant holds of what was seen. -/
theorem get_bind {f : State → Step β} (hf : ∀ s, I s → I (f s s).2) : Keeps I (get >>= f) := hf

theorem discard (hp : Keeps I p) : Keeps I (discard p) := fun s hs => by
  rw [Step.discard_run]
  exact hp s hs

/-- A report says no more than what it is given. -/
theorem report {log : List Log.Record}
    (h : ∀ taken, taken <+: log → ∀ s, I s → I (s.say taken)) : Keeps I (Step.report log) :=
  fun s hs => h _ (s.around.console.take_prefix log) s hs

theorem counted (hcount : ∀ s, I s → I s.count) (hp : Keeps I p) : Keeps I (Step.counted p) :=
  fun s hs => hcount _ (hp s hs)

theorem ite {b : Prop} [Decidable b] {q : Step α} (hp : Keeps I p) (hq : Keeps I q) :
    Keeps I (if b then p else q) := by
  split
  · exact hp
  · exact hq

end Keeps

end ItemCatalog.Population
