import ItemCatalog.Proofs.Population.Callers
import Mathlib.Algebra.BigOperators.Group.Finset.Basic
import Mathlib.Data.Fintype.BigOperators
import Mathlib.Logic.Relation

/-! # Races: callers that install catalogs at the same time

Any number of callers populate the catalog of one context, ask for it or install one. Their turns
come in any order, and while passes run anything may change but the slot and the count. A pass that
a callback starts is one more caller.

* `call_reaches`: a call with nobody in between is one of the orders;
* `Race.Sound`: what holds in every order of turns, kept by one step (`sound_step`) and so by all of
  them (`sound_reachable`);
* `race_outcome`: who finds the slot empty, who runs a pass, what callers get, and how many passes
  are counted. -/

namespace ItemCatalog.Population

open Step Relation Function

/-! ### Races -/

/-- An installation: who tried which catalog, the slot before it, what the caller got, and the slot
after it. -/
structure Installation (ι : Type) where
  racer : ι
  new : CatalogName
  preferNew : Bool
  before : Option CatalogName
  returned : Except Fault (Option CatalogName)
  after : Option CatalogName

/-- Callers on their way, with the state that they share, how far each of them is, the installations
in their order, what was in the slot when each looked at it last, and whether it began a pass. -/
structure Race (ι : Type) where
  state : State
  phase : ι → Phase := fun _ => .ready
  installs : List (Installation ι) := []
  seen : ι → Option CatalogName := fun _ => none
  began : ι → Bool := fun _ => false

/-- The installation that a turn is noted for. -/
def Event.installation? {ι : Type} (i : ι) (before after : Option CatalogName) :
    Event → Option (Installation ι)
  | .installed new preferNew returned => some ⟨i, new, preferNew, before, returned, after⟩
  | _ => none

/-! ### Installations in a row -/

section Installations

variable {ι : Type} {call : ι → Racer} {console : Log.Console}

/-- Installations one after the other, from an empty slot on: each finds what the one before it
left, gives it to its caller, and decides what is in the slot. -/
inductive Chained (call : ι → Racer) (console : Log.Console) :
    List (Installation ι) → Option CatalogName → Prop
  | nil : Chained call console [] none
  | snoc {installs : List (Installation ι)} {slot : Option CatalogName}
      (h : Chained call console installs slot) (i : ι) (new : CatalogName) (preferNew : Bool) :
      Chained call console (installs ++ [⟨i, new, preferNew, slot, (call i).gives console slot,
        slotAfter slot new preferNew⟩]) (slotAfter slot new preferNew)

namespace Chained

variable {installs : List (Installation ι)} {slot : Option CatalogName}

theorem slot_eq_none_iff (h : Chained call console installs slot) :
    slot = none ↔ installs = [] := by
  cases h with
  | nil => simp
  | snoc h i new preferNew => simp [slotAfter_ne_none]

/-- The first installation finds the slot empty, and no other one does. -/
theorem first_only (h : Chained call console installs slot) {first : Installation ι}
    {rest : List (Installation ι)} (hinstalls : installs = first :: rest) :
    (first.before = none ∧ first.returned = .ok none ∧ first.after = some first.new) ∧
      ∀ e ∈ rest, ∃ c, e.before = some c ∧
        e.returned = (console.said (call e.racer).note).map (fun _ => some c) ∧
        e.after = if e.preferNew then some e.new else some c := by
  induction h generalizing rest with
  | nil => cases hinstalls
  | @snoc installs slot h i new preferNew ih =>
    cases installs with
    | nil =>
      have hslot : slot = none := h.slot_eq_none_iff.mpr rfl
      obtain ⟨rfl, rfl⟩ := List.cons.inj hinstalls
      subst hslot
      exact ⟨⟨rfl, rfl, rfl⟩, fun e he => by cases he⟩
    | cons first' rest' =>
      obtain ⟨rfl, rfl⟩ := List.cons.inj hinstalls
      obtain ⟨hfirst, hrest⟩ := ih rfl
      refine ⟨hfirst, fun e he => ?_⟩
      rcases List.mem_append.mp he with he | he
      · exact hrest e he
      · obtain rfl := List.mem_singleton.mp he
        have hslot : slot ≠ none := fun hnone => by cases h.slot_eq_none_iff.mp hnone
        obtain ⟨c, rfl⟩ := Option.ne_none_iff_exists'.mp hslot
        refine ⟨c, rfl, rfl, ?_⟩
        cases preferNew <;> rfl

/-- Each installation finds what the one before it left, and the last one's is in the slot. -/
theorem linked (h : Chained call console installs slot) :
    List.IsChain (fun e e' => e'.before = e.after) installs ∧
      ∀ e ∈ installs.getLast?, slot = e.after := by
  induction h with
  | nil => exact ⟨List.IsChain.nil, fun e he => by cases he⟩
  | @snoc installs slot h i new preferNew ih =>
    refine ⟨?_, fun e he => ?_⟩
    · rw [List.isChain_append]
      refine ⟨ih.1, List.IsChain.singleton _, fun e he e' he' => ?_⟩
      cases he'
      exact ih.2 e he
    · rw [List.getLast?_concat] at he
      cases he
      rfl

end Chained

end Installations

/-! ### What is known of a caller -/

/-- What is known of a caller in a phase, by whether a catalog was installed, what the caller saw
last, and whether it began a pass. -/
def Racer.Placed (installed : Prop) (seen : Option CatalogName) (began : Bool) :
    Racer → Phase → Prop
  | .populator _ _, .ready => True
  | .populator _ _, .saw none => True
  | .populator _ _, _ => installed
  | .asker, .ready => began = false
  | .asker, .saw _ => began = false
  | .asker, .runs _ => installed ∧ began = true
  | .asker, .counts _ _ => installed ∧ began = true
  | .asker, .looks => installed
  | .asker, .done (.ok found) => installed ∧ found ≠ none ∧ seen = found
  | .asker, .done (.error _) => installed ∧ began = true
  | .installer _ _ _, .done _ => installed
  | .installer _ _ _, _ => True

/-- How many passes a caller has counted. -/
def Racer.counted (began : Bool) : Racer → Phase → Nat
  | .populator _ _, .done _ => 1
  | .asker, .looks => began.toNat
  | .asker, .done _ => began.toNat
  | _, _ => 0

section Turns

variable {c : Racer} {p q : Phase} {slot slot' seen : Option CatalogName} {events : List Event}
  {n : Nat} {began : Bool} {installed installed' : Prop} {console : Log.Console}

theorem placed_mono (hlater : installed → installed') (h : c.Placed installed seen began p) :
    c.Placed installed' seen began p := by
  cases c with
  | populator needsInitial items =>
    cases p with
    | ready => trivial
    | saw found =>
      cases found with
      | none => trivial
      | some name => exact hlater h
    | _ => exact hlater h
  | asker =>
    cases p with
    | ready => exact h
    | saw found => exact h
    | looks => exact hlater h
    | done r => cases r <;> exact ⟨hlater h.1, h.2⟩
    | _ => exact ⟨hlater h.1, h.2⟩
  | installer new message preferNew =>
    cases p with
    | done r => exact hlater h
    | _ => trivial

/-- What is known of a caller is known after its turn. -/
theorem turn_placed (h : Turn console c p slot q events slot' n)
    (hp : c.Placed installed seen began p)
    (hslot : installed → slot ≠ none) (hlater : installed → installed')
    (hnew : slot' ≠ none → installed') :
    c.Placed installed' (if events.any Event.isLook then slot else seen)
      (began || events.any Event.isStart) q := by
  cases h with
  | look =>
    cases slot with
    | none => trivial
    | some name => exact hnew (Option.some_ne_none name)
  | replace => exact hnew (slotAfter_ne_none _ _ _)
  | keep => exact hlater hp
  | finish => exact hlater hp
  | @find name =>
    exact ⟨hnew (Option.some_ne_none name), Option.some_ne_none name, by simp⟩
  | miss =>
    have hbegan : began = false := hp
    simp [Racer.Placed, hbegan]
  | win => exact ⟨hnew (slotAfter_ne_none _ _ _), by simp⟩
  | lose => exact hnew (slotAfter_ne_none _ _ _)
  | count => exact hlater hp.1
  | fail => exact ⟨hlater hp.1, by simp [hp.2]⟩
  | again => exact ⟨hlater hp, hslot hp, by simp⟩
  | install => exact hnew (slotAfter_ne_none _ _ _)
  | idle =>
    have hsame : c.Placed installed' seen began p := placed_mono hlater hp
    simpa using hsame

/-- What a turn counts, its caller has counted then. -/
theorem turn_counted (h : Turn console c p slot q events slot' n)
    (hp : c.Placed installed seen began p) :
    c.counted (began || events.any Event.isStart) q = c.counted began p + n := by
  cases h with
  | find =>
    have hbegan : began = false := hp
    simp [Racer.counted, hbegan]
  | lose =>
    have hbegan : began = false := hp
    simp [Racer.counted, hbegan]
  | count => simp [Racer.counted, hp.2]
  | fail => simp [Racer.counted, hp.2]
  | again => simp [Racer.counted]
  | idle => simp
  | _ => rfl

variable {ι : Type} (i : ι)

/-- A turn is noted for one installation at most, and leaves the slot without one. -/
theorem turn_installs (h : Turn console c p slot q events slot' n) :
    (events.filterMap (Event.installation? i slot slot') = [] ∧ slot' = slot) ∨
      ∃ new preferNew, events.filterMap (Event.installation? i slot slot') =
        [⟨i, new, preferNew, slot, c.gives console slot, slot'⟩] ∧
          slot' = slotAfter slot new preferNew := by
  have hasker := gives_of_plain (c := .asker) reverting_isPlain console
  cases h with
  | @replace needsInitial items =>
    rw [gives_of_plain (c := .populator needsInitial items) replacing_isPlain]
    exact Or.inr ⟨_, true, rfl, rfl⟩
  | win =>
    rw [hasker]
    exact Or.inr ⟨_, false, rfl, rfl⟩
  | lose =>
    rw [hasker]
    exact Or.inr ⟨_, false, rfl, rfl⟩
  | install h => exact Or.inr ⟨_, _, h ▸ rfl, rfl⟩
  | _ => exact Or.inl ⟨rfl, rfl⟩

/-- Who asks for the catalog begins a pass when it installs one in an empty slot. -/
theorem turn_begins (h : Turn console .asker p slot q events slot' n) :
    events.any Event.isStart = true ↔
      slot = none ∧ events.filterMap (Event.installation? i slot slot') ≠ [] := by
  cases h <;> simp [Event.installation?]

end Turns

/-! ### Steps -/

section Steps

variable {ι : Type} [DecidableEq ι]

/-- The race after a turn of a caller. -/
def Race.turn (r : Race ι) (i : ι) (q : Phase) (events : List Event) (t : State) : Race ι where
  state := t
  phase := update r.phase i q
  installs := r.installs ++
    events.filterMap (Event.installation? i r.state.context.slot t.context.slot)
  seen := update r.seen i (if events.any Event.isLook then r.state.context.slot else r.seen i)
  began := update r.began i (r.began i || events.any Event.isStart)

/-- **A step of a race:** something else than the slot and the count changes, a pass ends in any
way, or a caller takes a turn. -/
inductive Race.Step (call : ι → Racer) : Race ι → Race ι → Prop
  | work {r : Race ι} {t : State} (h : Untouched r.state t) : Step call r { r with state := t }
  | ends {r : Race ι} {i : ι} {name : CatalogName} (h : r.phase i = .runs name)
      (result : Except Fault Unit) :
      Step call r { r with phase := update r.phase i (.counts name result) }
  | turn {r : Race ι} {i : ι} {q : Phase} {events : List Event} {t : State}
      (h : (call i).move (r.phase i) r.state = (.ok (q, events), t)) :
      Step call r (r.turn i q events t)

theorem turn_self (r : Race ι) (i : ι) (q : Phase) (events : List Event) (t : State) :
    (r.turn i q events t).phase i = q ∧
      (r.turn i q events t).seen i =
        (if events.any Event.isLook then r.state.context.slot else r.seen i) ∧
      (r.turn i q events t).began i = (r.began i || events.any Event.isStart) := by
  simp only [Race.turn, update_self, and_self]

theorem turn_of_ne (r : Race ι) {i j : ι} (hji : j ≠ i) (q : Phase) (events : List Event)
    (t : State) : (r.turn i q events t).phase j = r.phase j ∧
      (r.turn i q events t).seen j = r.seen j ∧ (r.turn i q events t).began j = r.began j := by
  simp only [Race.turn, update_of_ne hji, and_self]

/-- The first installation stays the first one. -/
theorem turn_first {c : Racer} {r : Race ι} {i : ι} {q : Phase} {events : List Event} {t : State}
    {n : Nat} (h : Turned c (r.phase i) r.state q events t n) :
    (r.turn i q events t).installs.head?.map Installation.racer =
      (r.installs.head?.map Installation.racer).or
        (if events.filterMap (Event.installation? i r.state.context.slot t.context.slot) = []
        then none else some i) := by
  show (r.installs ++ _).head?.map Installation.racer = _
  rcases turn_installs i h.turn with ⟨hnone, -⟩ | ⟨new, preferNew, hone, -⟩
  · rw [hnone, List.append_nil]
    cases r.installs <;> rfl
  · rw [hone]
    cases r.installs <;> rfl

end Steps

/-! ### Calls as steps -/

section Calls

variable {ι : Type} [DecidableEq ι] {call : ι → Racer} {i : ι} {inner : Inner}

/-- The race after a pass of a caller that ended like this. -/
def Race.passed (r : Race ι) (i : ι) (name : CatalogName) (ended : Except Fault Unit × State) :
    Race ι :=
  { r with state := ended.2, phase := update r.phase i (.counts name ended.1) }

theorem passed_self (r : Race ι) (i : ι) (name : CatalogName)
    (ended : Except Fault Unit × State) :
    (r.passed i name ended).phase i = .counts name ended.1 := by
  simp only [Race.passed, update_self]

/-- A pass that runs without anyone in between. -/
theorem pass_reaches {r : Race ι} {name : CatalogName} (hi : r.phase i = .runs name)
    {ended : Except Fault Unit × State} (h : Untouched r.state ended.2) :
    ReflTransGen (Race.Step call) r (r.passed i name ended) := by
  let worked : Race ι := { r with state := ended.2 }
  have hwork : Race.Step call r worked := Race.Step.work h
  have hends : Race.Step call worked (r.passed i name ended) :=
    Race.Step.ends (r := worked) hi ended.1
  exact (ReflTransGen.single hwork).tail hends

/-- The turns of a caller, and its pass, without anyone in between, by induction on their number. -/
theorem alone_reaches {n : Nat} {r : Race ι} {q : Phase} {t : State}
    (hrival : r.state.context.rival = none)
    (hcallbacks : ∀ c ∈ r.state.callbacks, c.avoids [.clears, .populates, .asks] = true)
    (h : (call i).alone inner n (r.phase i) r.state = (.ok q, t)) :
    ∃ r', ReflTransGen (Race.Step call) r r' ∧ r'.phase i = q ∧ r'.state = t := by
  induction n generalizing r with
  | zero =>
    obtain ⟨hq, ht⟩ := Prod.mk.inj h
    exact ⟨r, ReflTransGen.refl, Except.ok.inj hq, ht⟩
  | succ n ih =>
    by_cases hruns : ∃ name, r.phase i = .runs name
    · obtain ⟨name, hname⟩ := hruns
      have hcalm : Calm r.state ((call i).pass inner name r.state).2 :=
        pass_calm hrival hcallbacks name (call i)
      have hpass : ReflTransGen (Race.Step call) r
          (r.passed i name ((call i).pass inner name r.state)) :=
        pass_reaches hname hcalm.toUntouched
      rw [hname] at h
      obtain ⟨r', hsteps, hphase, hstate⟩ :=
        ih (r := r.passed i name ((call i).pass inner name r.state)) (hcalm.rival.trans hrival)
          hcalm.callbacks (by rw [passed_self]; exact h)
      exact ⟨r', hpass.trans hsteps, hphase, hstate⟩
    · obtain ⟨q', events, u, n', hturned⟩ := move_turn hrival (call i) (r.phase i)
      rw [alone_move inner r.state hturned.run fun name hname => hruns ⟨name, hname⟩] at h
      have hturn : Race.Step call r (r.turn i q' events u) := Race.Step.turn hturned.run
      obtain ⟨hphase', -, -⟩ := turn_self r i q' events u
      obtain ⟨r', hsteps, hphase, hstate⟩ := ih (r := r.turn i q' events u) hturned.rival
        (by rw [show (r.turn i q' events u).state = u from rfl, hturned.callbacks]
            exact hcallbacks)
        (by rw [hphase']; exact h)
      exact ⟨r', hsteps.head hturn, hphase, hstate⟩

/-- **A call** is steps of a race: it ends with the result of the call and leaves its state. -/
theorem call_reaches {r : Race ι} (hi : r.phase i = .ready)
    (hrival : r.state.context.rival = none)
    (hcallbacks : ∀ c ∈ r.state.callbacks, c.avoids [.clears, .populates, .asks] = true) :
    ∃ r', ReflTransGen (Race.Step call) r r' ∧
      r'.phase i = .done ((call i).call inner r.state).1 ∧
      r'.state = ((call i).call inner r.state).2 := by
  have halone := alone_run inner r.state (call i)
  rw [← hi] at halone
  exact alone_reaches hrival hcallbacks halone

end Calls

/-! ### What races keep -/

section Sound

variable {ι : Type} [Fintype ι] {call : ι → Racer} {console : Log.Console} {start : Nat}

/-- **What holds in every race** of some callers, from an empty slot and a count on: nobody else
comes in, the installations lead to what is in the slot, callers are where they can be, who asks for
the catalog began a pass if the first installation was its own, and the count is what callers have
counted. -/
structure Race.Sound (call : ι → Racer) (console : Log.Console) (start : Nat) (r : Race ι) :
    Prop where
  rival : r.state.context.rival = none
  console_eq : r.state.around.console = console
  chain : Chained call console r.installs r.state.context.slot
  placed : ∀ i, (call i).Placed (r.installs ≠ []) (r.seen i) (r.began i) (r.phase i)
  winner : ∀ i, call i = .asker →
    (r.began i = true ↔ r.installs.head?.map Installation.racer = some i)
  count : r.state.runs.value = start + ∑ i, (call i).counted (r.began i) (r.phase i)

theorem sound_start {s : State} (hslot : s.context.slot = none) (hrival : s.context.rival = none) :
    Race.Sound call s.around.console s.runs.value ({ state := s } : Race ι) where
  rival := hrival
  console_eq := rfl
  chain := by
    show Chained _ _ [] s.context.slot
    rw [hslot]
    exact Chained.nil
  placed i := by
    show (call i).Placed _ none false .ready
    cases call i <;> trivial
  winner i _ := by simp
  count := by
    have hzero : ∀ i, (call i).counted false .ready = 0 := by
      intro i
      cases call i <;> rfl
    simp [hzero]

/-- Who is done was there when a catalog was installed. -/
theorem installed_of_done {r : Race ι} (h : r.Sound call console start) {i : ι}
    {answer : Except Fault (Option CatalogName)} (hi : r.phase i = .done answer) :
    r.installs ≠ [] := by
  have hplaced := h.placed i
  rw [hi] at hplaced
  cases hc : call i with
  | asker =>
    rw [hc] at hplaced
    -- An asker is done with a catalog, or with the fault of its pass.
    cases answer <;> exact hplaced.1
  | _ =>
    rw [hc] at hplaced
    exact hplaced

variable [DecidableEq ι] {r r' : Race ι}

/-- A sum of which one part changes. -/
theorem sum_add_of_update {f g : ι → Nat} {i : ι} {n : Nat} (hi : g i = f i + n)
    (hother : ∀ j, j ≠ i → g j = f j) : ∑ j, g j = ∑ j, f j + n := by
  rw [← Finset.add_sum_erase _ g (Finset.mem_univ i), ← Finset.add_sum_erase _ f
    (Finset.mem_univ i), hi,
    Finset.sum_congr rfl fun j hj => hother j (Finset.ne_of_mem_erase hj)]
  exact Nat.add_right_comm _ _ _

/-- A pass that ends changes nothing that is known. -/
theorem sound_ends (h : r.Sound call console start) {i : ι} {name : CatalogName}
    (hi : r.phase i = .runs name) (result : Except Fault Unit) :
    Race.Sound call console start { r with phase := update r.phase i (.counts name result) } where
  rival := h.rival
  console_eq := h.console_eq
  chain := h.chain
  placed j := by
    have hj := h.placed j
    by_cases hji : j = i
    · subst hji
      rw [hi] at hj
      show (call j).Placed _ _ _ (update r.phase j (.counts name result) j)
      rw [update_self]
      cases hc : call j <;> rw [hc] at hj <;> exact hj
    · show (call j).Placed _ _ _ (update r.phase i (.counts name result) j)
      rw [update_of_ne hji]
      exact hj
  winner := h.winner
  count := by
    have hsame : ∀ j, (call j).counted (r.began j) (update r.phase i (.counts name result) j) =
        (call j).counted (r.began j) (r.phase j) := by
      intro j
      by_cases hji : j = i
      · subst hji
        rw [update_self, hi]
        cases call j <;> rfl
      · rw [update_of_ne hji]
    show r.state.runs.value = _
    rw [h.count]
    exact congrArg (start + ·) (Finset.sum_congr rfl fun j _ => (hsame j).symm)

section Turn

variable (h : r.Sound call console start) {i : ι} {q : Phase} {events : List Event} {t : State}
  {n : Nat}
  (hturned : Turned (call i) (r.phase i) r.state q events t n)
include h hturned

theorem sound_turn_chain :
    Chained call console (r.turn i q events t).installs t.context.slot := by
  show Chained call console (r.installs ++ _) _
  rcases turn_installs i hturned.turn with ⟨hnone, hslot⟩ | ⟨new, preferNew, hone, hslot⟩
  · rw [hnone, hslot, List.append_nil]
    exact h.chain
  · rw [hone, hslot, h.console_eq]
    exact h.chain.snoc i new preferNew

theorem sound_turn_placed (j : ι) : (call j).Placed ((r.turn i q events t).installs ≠ [])
    ((r.turn i q events t).seen j) ((r.turn i q events t).began j)
    ((r.turn i q events t).phase j) := by
  have hlater : r.installs ≠ [] → (r.turn i q events t).installs ≠ [] := by
    intro hne
    exact List.append_ne_nil_of_left_ne_nil hne _
  by_cases hji : j = i
  · subst hji
    have hplaced := turn_placed hturned.turn (h.placed j)
      (fun hne hslot => hne (h.chain.slot_eq_none_iff.mp hslot)) hlater
      (fun hslot hnil => hslot ((sound_turn_chain h hturned).slot_eq_none_iff.mpr hnil))
    obtain ⟨hphase, hseen, hbegan⟩ := turn_self r j q events t
    rw [hphase, hseen, hbegan]
    exact hplaced
  · obtain ⟨hphase, hseen, hbegan⟩ := turn_of_ne r hji q events t
    rw [hphase, hseen, hbegan]
    exact placed_mono hlater (h.placed j)

theorem sound_turn_winner (j : ι) (hj : call j = .asker) :
    (r.turn i q events t).began j = true ↔
      (r.turn i q events t).installs.head?.map Installation.racer = some j := by
  have hwinner := h.winner j hj
  have hslot := h.chain.slot_eq_none_iff
  rw [turn_first hturned]
  by_cases hji : j = i
  · subst hji
    have hturn := hturned.turn
    rw [hj] at hturn
    have hbegins := turn_begins j hturn
    -- The slot is empty exactly if nobody has installed a catalog yet.
    rw [hslot] at hbegins
    rw [(turn_self r j q events t).2.2, Bool.or_eq_true, hwinner, hbegins]
    cases r.installs with
    | nil => simp
    | cons first rest => simp
  · rw [(turn_of_ne r hji q events t).2.2, hwinner]
    cases r.installs with
    | nil =>
      have hij : i ≠ j := fun hij => hji hij.symm
      simp [hij]
    | cons first rest => simp

theorem sound_turn_count : t.runs.value = start + ∑ j, (call j).counted
    ((r.turn i q events t).began j) ((r.turn i q events t).phase j) := by
  have hsum : ∑ j, (call j).counted ((r.turn i q events t).began j)
      ((r.turn i q events t).phase j) =
        ∑ j, (call j).counted (r.began j) (r.phase j) + n := by
    refine sum_add_of_update (i := i) ?_ fun j hji => ?_
    · obtain ⟨hphase, -, hbegan⟩ := turn_self r i q events t
      rw [hphase, hbegan]
      exact turn_counted hturned.turn (h.placed i)
    · obtain ⟨hphase, -, hbegan⟩ := turn_of_ne r hji q events t
      rw [hphase, hbegan]
  rw [hsum, hturned.runs, h.count]
  exact Nat.add_assoc _ _ _

end Turn

/-- **A turn** keeps what holds in races. -/
theorem sound_turn (h : r.Sound call console start) {i : ι} {q : Phase} {events : List Event}
    {t : State}
    (hmove : (call i).move (r.phase i) r.state = (.ok (q, events), t)) :
    Race.Sound call console start (r.turn i q events t) := by
  obtain ⟨n, hturned⟩ := turned_of_move h.rival hmove
  exact ⟨hturned.rival, hturned.console.trans h.console_eq, sound_turn_chain h hturned,
    sound_turn_placed h hturned,
    sound_turn_winner h hturned, sound_turn_count h hturned⟩

/-- **A step** keeps what holds in races. -/
theorem sound_step (h : r.Sound call console start) (hstep : Race.Step call r r') :
    r'.Sound call console start := by
  cases hstep with
  | @work t hsame =>
    refine ⟨hsame.rival.trans h.rival, hsame.console.trans h.console_eq, ?_, h.placed, h.winner, ?_⟩
    · show Chained call console r.installs t.context.slot
      rw [hsame.slot]
      exact h.chain
    · show t.runs.value = _
      rw [hsame.runs]
      exact h.count
  | ends hi result => exact sound_ends h hi result
  | turn hmove => exact sound_turn h hmove

/-- **Every race** keeps it, by induction on its steps. -/
theorem sound_reachable {s : State} (hslot : s.context.slot = none)
    (hrival : s.context.rival = none) (h : ReflTransGen (Race.Step call) { state := s } r) :
    r.Sound call s.around.console s.runs.value := by
  induction h with
  | refl => exact sound_start hslot hrival
  | tail _ hstep ih => exact sound_step ih hstep

/-! ### Outcomes -/

/-- Whether a caller populates the catalog. -/
def Racer.isPopulator : Racer → Bool
  | .populator _ _ => true
  | _ => false

/-- Whether a caller asks for the catalog. -/
def Racer.isAsker : Racer → Bool
  | .asker => true
  | _ => false

/-- How many passes of askers are counted when all are done. -/
def Race.askerPasses (call : ι → Racer) (r : Race ι) : Nat :=
  match r.installs with
  | [] => 0
  | first :: _ => (call first.racer).isAsker.toNat

theorem sum_askers (h : r.Sound call console start) :
    ∑ i, ((call i).isAsker && r.began i).toNat = r.askerPasses call := by
  have hbegan : ∀ i, ((call i).isAsker && r.began i).toNat =
      if r.installs.head?.map Installation.racer = some i then (call i).isAsker.toNat else 0 := by
    intro i
    cases hc : call i with
    | asker =>
      have hwinner := h.winner i hc
      by_cases hfirst : r.installs.head?.map Installation.racer = some i
      · rw [if_pos hfirst, hwinner.mpr hfirst]
        rfl
      · rw [if_neg hfirst, Bool.eq_false_iff.mpr fun hb => hfirst (hwinner.mp hb)]
        rfl
    | _ => split <;> rfl
  rw [Finset.sum_congr rfl fun i _ => hbegan i]
  unfold Race.askerPasses
  cases r.installs with
  | nil => simp
  | cons first rest => simp

/-- When all callers are done, the count is as high as there are populators, and one higher if the
first installation was an asker's. -/
theorem count_of_all_done (h : r.Sound call console start)
    (hdone : ∀ i, ∃ answer, r.phase i = .done answer) : r.state.runs.value =
      start + (Finset.univ.filter fun i => (call i).isPopulator = true).card +
        r.askerPasses call := by
  have hcounted : ∀ i, (call i).counted (r.began i) (r.phase i) =
      (if (call i).isPopulator = true then 1 else 0) + ((call i).isAsker && r.began i).toNat := by
    intro i
    obtain ⟨answer, hi⟩ := hdone i
    rw [hi]
    cases call i with
    | asker => exact (Nat.zero_add _).symm
    | _ => rfl
  rw [h.count, Finset.sum_congr rfl fun i _ => hcounted i, Finset.sum_add_distrib, sum_askers h,
    Finset.card_filter, Nat.add_assoc]

/-- **Racing callers.** From an empty slot, in every order of turns: the first installation, and no
other one, finds the slot empty; after it there is always a catalog in the slot. Every other one
gives the catalog that was installed just before, if the console takes the warning about it, and
replaces it exactly if the new one is preferred. Who asks for the catalog runs a pass exactly if the
first installation was its own, and gets the catalog that was there when it looked last. In the end
a pass is counted for everyone who populates the catalog, and one more if who asked for it came
first. -/
theorem race_outcome {s : State} (hslot : s.context.slot = none) (hrival : s.context.rival = none)
    (h : ReflTransGen (Race.Step call) { state := s } r) :
    (∀ first rest, r.installs = first :: rest →
      (first.before = none ∧ first.returned = .ok none ∧ first.after = some first.new) ∧
      ∀ e ∈ rest, ∃ c, e.before = some c ∧
        e.returned = (s.around.console.said (call e.racer).note).map (fun _ => some c) ∧
        e.after = if e.preferNew then some e.new else some c) ∧
    List.IsChain (fun e e' => e'.before = e.after) r.installs ∧
    (∀ e ∈ r.installs.getLast?, r.state.context.slot = e.after) ∧
    (r.installs ≠ [] → r.state.context.slot ≠ none) ∧
    (∀ i, call i = .asker →
      (r.began i = true ↔ ∃ first rest, r.installs = first :: rest ∧ first.racer = i) ∧
      ∀ found, r.phase i = .done (.ok found) → found ≠ none ∧ r.seen i = found) ∧
    ((∀ i, ∃ answer, r.phase i = .done answer) →
      (Nonempty ι → r.installs ≠ []) ∧
      r.state.runs.value = s.runs.value +
        (Finset.univ.filter fun i => (call i).isPopulator = true).card + r.askerPasses call) := by
  have hsound := sound_reachable hslot hrival h
  have hlinked := hsound.chain.linked
  refine ⟨fun first rest hinstalls => hsound.chain.first_only hinstalls, hlinked.1, hlinked.2,
    fun hne hnone => hne (hsound.chain.slot_eq_none_iff.mp hnone), fun i hi => ⟨?_, ?_⟩,
    fun hdone => ⟨?_, count_of_all_done hsound hdone⟩⟩
  · rw [hsound.winner i hi]
    cases r.installs <;> simp
  · intro found hfound
    have hplaced := hsound.placed i
    rw [hi, hfound] at hplaced
    exact hplaced.2
  · rintro ⟨i⟩
    obtain ⟨answer, hanswer⟩ := hdone i
    exact installed_of_done hsound hanswer

end Sound

/-- Two callers: one populates the catalog, the other one asks for it. -/
def twoCallers (populates : Bool) : Racer :=
  if populates then .populator true none else .asker

/-- Both see an empty slot. The one who asks installs first and runs a pass, the other one replaces
the catalog, and this one is what the first one gets. -/
theorem race_of_two_callers : ∃ r : Race Bool,
    ReflTransGen (Race.Step twoCallers) { state := {} } r ∧ r.state.context.slot = some 1 ∧
      (∃ first rest, r.installs = first :: rest ∧ first.racer = false) ∧
      r.phase false = .done (.ok (some 1)) ∧ r.seen false = some 1 ∧ r.state.runs.value = 2 := by
  have h0 : ReflTransGen (Race.Step twoCallers) { state := {} } { state := {} } :=
    ReflTransGen.refl
  have h1 := h0.tail (Race.Step.turn (i := false) rfl)
  have h2 := h1.tail (Race.Step.turn (i := true) rfl)
  have h3 := h2.tail (Race.Step.turn (i := false) rfl)
  have h4 := h3.tail (Race.Step.turn (i := true) rfl)
  have h5 := h4.tail (Race.Step.ends (i := true) rfl (.ok ()))
  have h6 := h5.tail (Race.Step.ends (i := false) rfl (.ok ()))
  have h7 := h6.tail (Race.Step.turn (i := true) rfl)
  have h8 := h7.tail (Race.Step.turn (i := false) rfl)
  have h9 := h8.tail (Race.Step.turn (i := false) rfl)
  obtain ⟨-, -, -, -, haskers, hall⟩ := race_outcome rfl rfl h9
  obtain ⟨hbegan, hgets⟩ := haskers false rfl
  obtain ⟨-, hcount⟩ := hall fun i => by
    cases i with
    | false => exact ⟨.ok (some 1), rfl⟩
    | true => exact ⟨.ok (some 1), rfl⟩
  exact ⟨_, h9, rfl, hbegan.mp rfl, rfl, (hgets (some 1) rfl).2, hcount⟩

end ItemCatalog.Population
