import ItemCatalog.Population.Pass
import ItemCatalog.Proofs.Population.Step

/-! # Callbacks: what telling them keeps

Callbacks change while they are told about a pass: they are spent, and they register others. A class
of callbacks is `Closed` if it holds of whatever its members turn into, and a list of callbacks of
such a class stays one. An invariant is kept by the callbacks of a class if it is kept by the
actions that the class allows, and by the passes that these start. -/

namespace ItemCatalog.Population

open Step

/-! ### Classes -/

/-- A class of callbacks that holds of what its members turn into, and of their parts. -/
structure Closed (C : Callback → Prop) : Prop where
  action : ∀ {c}, C c → C c.turn.1
  rest : ∀ {c}, C c → C c.turn.2
  registered : ∀ {other n}, C (.registers other n) → C other
  both : ∀ {c d}, C (.both c d) → C c ∧ C d
  recovers : ∀ {c d}, C (.recovers c d) → C c ∧ C d
  turns : ∀ {n c d}, C (.turns n c d) → C c ∧ C d

/-- An invariant under which all callbacks are of a class, and that does not depend on them or on
the record of their calls otherwise. -/
structure Allows (C : Callback → Prop) (I : State → Prop) : Prop where
  allowed : ∀ {s}, I s → ∀ c ∈ s.callbacks, C c
  callbacks : ∀ {s cs}, I s → (∀ c ∈ cs, C c) → I { s with callbacks := cs }
  call : ∀ {s} c, I s → I (s.call c)

theorem any_closed : Closed fun _ => True where
  action _ := trivial
  rest _ := trivial
  registered _ := trivial
  both _ := ⟨trivial, trivial⟩
  recovers _ := ⟨trivial, trivial⟩
  turns _ := ⟨trivial, trivial⟩

/-! ### Avoiding kinds -/

/-- The kinds of callbacks; those that are put together are of one kind. -/
inductive Callback.Kind where
  | quiet
  | fails
  | populates
  | asks
  | clears
  | adds
  | registers
  | composite
deriving DecidableEq

/-- The kind of a callback. -/
def Callback.kind : Callback → Kind
  | .quiet => .quiet
  | .fails _ => .fails
  | .populates _ => .populates
  | .asks _ => .asks
  | .clears _ => .clears
  | .adds _ _ => .adds
  | .registers _ _ => .registers
  | .both _ _ => .composite
  | .recovers _ _ => .composite
  | .turns _ _ _ => .composite

/-- Whether a callback, what it is put together from and what it registers, takes no action of some
kinds. -/
def Callback.avoids (kinds : List Kind) : Callback → Bool
  | .quiet => true
  | .registers other _ => !kinds.contains .registers && other.avoids kinds
  | .both c d => c.avoids kinds && d.avoids kinds
  | .recovers c d => c.avoids kinds && d.avoids kinds
  | .turns _ c d => c.avoids kinds && d.avoids kinds
  | c => !kinds.contains c.kind

theorem avoids_turn (kinds : List Callback.Kind) {c : Callback} (h : c.avoids kinds = true) :
    c.turn.1.avoids kinds = true ∧ c.turn.2.avoids kinds = true := by
  induction c with
  | quiet => exact ⟨rfl, h⟩
  | fails e => exact ⟨h, h⟩
  | both c d ihc ihd =>
    obtain ⟨hc, hd⟩ := Bool.and_eq_true_iff.mp h
    exact ⟨Bool.and_eq_true_iff.mpr ⟨(ihc hc).1, (ihd hd).1⟩,
      Bool.and_eq_true_iff.mpr ⟨(ihc hc).2, (ihd hd).2⟩⟩
  | recovers c d ihc ihd =>
    obtain ⟨hc, hd⟩ := Bool.and_eq_true_iff.mp h
    exact ⟨Bool.and_eq_true_iff.mpr ⟨(ihc hc).1, (ihd hd).1⟩,
      Bool.and_eq_true_iff.mpr ⟨(ihc hc).2, (ihd hd).2⟩⟩
  | turns n c d ihc ihd =>
    obtain ⟨hc, hd⟩ := Bool.and_eq_true_iff.mp h
    cases n with
    | zero => exact ⟨(ihd hd).1, Bool.and_eq_true_iff.mpr ⟨hc, (ihd hd).2⟩⟩
    | succ n => exact ⟨(ihc hc).1, Bool.and_eq_true_iff.mpr ⟨(ihc hc).2, hd⟩⟩
  | populates n | asks n | clears n | adds _ n | registers _ n _ =>
    cases n with
    | zero => exact ⟨rfl, h⟩
    | succ n => exact ⟨h, h⟩

theorem avoids_closed (kinds : List Callback.Kind) : Closed fun c => c.avoids kinds = true where
  action hc := (avoids_turn kinds hc).1
  rest hc := (avoids_turn kinds hc).2
  registered hc := (Bool.and_eq_true_iff.mp hc).2
  both := Bool.and_eq_true_iff.mp
  recovers := Bool.and_eq_true_iff.mp
  turns := Bool.and_eq_true_iff.mp

/-! ### Telling -/

section Telling

variable {C : Callback → Prop} {I : State → Prop} {inner : Inner}

/-- Actions keep what the passes, the writes and the additions of their class keep. -/
theorem act_keeps (hC : Closed C) (hI : Allows C I)
    (hpopulate : ∀ n, C (.populates n) → Keeps I inner.populate)
    (hask : ∀ n, C (.asks n) → Keeps I inner.ask)
    (hclear : ∀ n, C (.clears n) → ∀ s, I s → I (s.write none))
    (hadd : ∀ item n, C (.adds item n) → Keeps I (addToInstalled item))
    (place : Nat) {c : Callback} (hc : C c) : Keeps I (act inner place c) := by
  induction c with
  | quiet => exact Keeps.pure ()
  | fails e => exact Keeps.throw e
  | populates n => exact hpopulate n hc
  | asks n => exact (hask n hc).bind fun name => Keeps.modify fun s hs => hI.call _ hs
  | clears n => exact Keeps.modify (hclear n hc)
  | adds item n => exact hadd item n hc
  | registers other n =>
    refine Keeps.modify fun s hs => hI.callbacks hs fun c hmem => ?_
    rcases List.mem_append.mp hmem with hmem | hmem
    · exact hI.allowed hs c hmem
    · rw [List.mem_singleton.mp hmem]
      exact hC.registered hc
  | both c d ihc ihd =>
    obtain ⟨hfirst, hsecond⟩ := hC.both hc
    exact (ihc hfirst).bind fun _ => ihd hsecond
  | recovers c d ihc ihd =>
    obtain ⟨hfirst, hsecond⟩ := hC.recovers hc
    exact (ihc hfirst).recover (ihd hsecond)
  | turns n c d ihc ihd =>
    obtain ⟨hfirst, hsecond⟩ := hC.turns hc
    cases n with
    | zero => exact ihd hsecond
    | succ n => exact ihc hfirst

theorem tell_keeps (hC : Closed C) (hI : Allows C I)
    (hact : ∀ place c, C c → Keeps I (act inner place c)) (place : Nat) {c : Callback} (hc : C c) :
    Keeps I (tell inner place c) := by
  refine (Keeps.modify fun s hs => hI.call _ hs).bind fun _ =>
    (Keeps.modify fun s hs => hI.callbacks hs fun c' hmem => ?_).bind fun _ =>
      hact place _ (hC.action hc)
  rcases List.mem_or_eq_of_mem_set hmem with hmem | rfl
  · exact hI.allowed hs c' hmem
  · exact hC.rest hc

theorem tellFrom_keeps (hC : Closed C) (hI : Allows C I)
    (hact : ∀ place c, C c → Keeps I (act inner place c)) (count place : Nat) :
    Keeps I (tellFrom inner count place) := by
  induction count generalizing place with
  | zero => exact Keeps.pure ()
  | succ count ih =>
    refine Keeps.get_bind fun s hs => ?_
    cases hplace : s.callbacks[place]? with
    | none => exact hs
    | some c =>
      have hc : C c := hI.allowed hs c (List.mem_of_getElem? hplace)
      exact (tell_keeps hC hI hact place hc).bind (fun _ => ih (place + 1)) s hs

/-- **Telling callbacks** keeps what the actions of their class keep. -/
theorem tellAll_keeps (hC : Closed C) (hI : Allows C I)
    (hact : ∀ place c, C c → Keeps I (act inner place c)) : Keeps I (tellAll inner) :=
  Keeps.get_bind fun s hs => tellFrom_keeps hC hI hact _ 0 s hs

end Telling

end ItemCatalog.Population
