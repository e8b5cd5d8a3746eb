import ItemCatalog.Proofs.Config.Places
import Mathlib.Data.List.DropRight

/-! # Sharing: which configuration a call uses

Shared configurations are asked for, or for their settings or one of them, with a path or without,
and between two calls anything around them may change: files, variables and the working directory.
Which configuration a call uses follows from the calls since everything was forgotten last
(`shared_use_lawful`): under one path it is always the one that was read first; without a path it is
the one that was made the default last, or else the one that the first call without a path read. A
call that fails changes nothing, so the next one tries again.

`Course.Agrees` says that what is kept agrees with what happened; one step keeps it (`Agrees.next`),
and so do all of them (`Agrees.after`). -/

namespace ItemCatalog.Config.Shared

open Files

/-! ### Uses -/

/-- What a shared configuration is asked for: itself, so that it may become the default, all its
settings, or one of them. -/
inductive Use where
  | config (file : Option String) (asDefault : Bool)
  | settings (file : Option String)
  | setting (path : String) (default : Value) (file : Option String)

/-- What a use gives: the place of a configuration, all settings, or one. -/
inductive Answer where
  | config (place : Nat)
  | settings (entries : Entries)
  | setting (value : Value)

namespace Use

/-- The file that a use names. -/
def file : Use → Option String
  | .config file _ => file
  | .settings file => file
  | .setting _ _ file => file

/-- Whether what a use names should be the default from now on. -/
def asDefault : Use → Bool
  | .config _ asDefault => asDefault
  | .settings _ => false
  | .setting _ _ _ => false

/-- Whether a use asks for a setting without saying which. -/
def isBlank : Use → Bool
  | .config _ _ => false
  | .settings _ => false
  | .setting path _ _ => path.isEmpty

/-- Whether a use is refused, whatever there is: it does not say what it asks for, or it names a
file by what can lead to none. -/
def isRefused (u : Use) : Bool :=
  u.isBlank || !leads u.file

/-- **A use,** as the work that it is. -/
def perform : Use → SharedWork Answer
  | .config file asDefault => .config <$> Shared.place file asDefault
  | .settings file => (fun c => .settings c.settings) <$> Shared.config file
  | .setting path default file => .setting <$> Shared.setting path default file

/-- What a use gives of the configuration at a place. -/
def answer (i : Nat) (c : Config) : Use → Answer
  | .config _ _ => .config i
  | .settings _ => .settings c.settings
  | .setting path default _ => .setting (c.get path default)

/-- What a use is about. -/
def target (u : Use) (s : State) : Option Path :=
  targetOf s.2.1 u.file

/-- Whether a use makes the default what it names, if it can be had. -/
def pins (u : Use) : Bool :=
  u.asDefault && u.file.isSome

theorem config_run (file : Option String) (asDefault : Bool) (s : State) :
    Shared.config file asDefault s = match place file asDefault s with
      | (.ok i, t) => (.ok ((t.1.at? i).getD {}), t)
      | (.error e, t) => (.error e, t) := by
  rw [Shared.config, bind_run]
  rcases place file asDefault s with ⟨e | i, t⟩ <;> rfl

theorem setting_run {path : String} (h : path.isEmpty = false) (default : Value)
    (file : Option String) (s : State) :
    Shared.setting path default file s = match place file false s with
      | (.ok i, t) => (.ok (((t.1.at? i).getD {}).get path default), t)
      | (.error e, t) => (.error e, t) := by
  rw [Shared.setting, if_neg (by rw [h]; exact nofun)]
  change (Shared.config file false >>= fun c => pure (c.get path default) : SharedWork Value) s = _
  rw [bind_run]
  rw [config_run]
  rcases place file false s with ⟨e | i, t⟩ <;> rfl

/-- A use that says what it asks for gives what the configuration at its place gives. -/
theorem perform_run {u : Use} (h : u.isBlank = false) (s : State) :
    u.perform s = match place u.file u.asDefault s with
      | (.ok i, t) => (.ok (u.answer i ((t.1.at? i).getD {})), t)
      | (.error e, t) => (.error e, t) := by
  cases u with
  | config file asDefault =>
    rw [perform, map_run, Use.file, Use.asDefault]
    rcases place file asDefault s with ⟨e | i, t⟩ <;> rfl
  | settings file =>
    rw [perform, map_run, Use.file, Use.asDefault, config_run]
    rcases place file false s with ⟨e | i, t⟩ <;> rfl
  | setting path default file =>
    rw [perform, map_run, Use.file, Use.asDefault, setting_run h]
    rcases place file false s with ⟨e | i, t⟩ <;> rfl

theorem perform_of_place {u : Use} (h : u.isBlank = false) {s : State} {i : Nat} {c : Config}
    (hi : (Shared.place u.file u.asDefault s).1 = .ok i)
    (hc : (u.perform s).2.1.at? i = some c) : (u.perform s).1 = .ok (u.answer i c) := by
  rcases hplace : Shared.place u.file u.asDefault s with ⟨e | j, t⟩
  · rw [hplace] at hi
    cases hi
  · have hrun := perform_run h s
    rw [hplace] at hi hrun
    obtain rfl := Except.ok.inj hi
    rw [hrun] at hc ⊢
    have hat : t.1.at? j = some c := hc
    simp only [hat, Option.getD_some]

theorem perform_eq_error_iff {u : Use} (h : u.isBlank = false) {s : State} {e : Fault} :
    (u.perform s).1 = .error e ↔ (Shared.place u.file u.asDefault s).1 = .error e := by
  rw [perform_run h]
  rcases Shared.place u.file u.asDefault s with ⟨e' | i, t⟩
  · exact ⟨fun h => congrArg Except.error (Except.error.inj h),
      fun h => congrArg Except.error (Except.error.inj h)⟩
  · exact iff_of_false nofun nofun

/-- A use that is refused changes nothing. -/
theorem perform_refused {u : Use} (h : u.isRefused = true) (s : State) :
    ∃ e, u.perform s = (.error e, s) := by
  cases hblank : u.isBlank with
  | false =>
    have hleads : leads u.file = false := by simpa [isRefused, hblank] using h
    refine ⟨endedPath, ?_⟩
    rw [perform_run hblank, place_of_not_leads hleads]
  | true =>
    cases u with
    | setting path default file =>
      have hempty : path.isEmpty = true := hblank
      rw [perform, map_run, Shared.setting, if_pos hempty]
      exact ⟨_, rfl⟩
    | config file asDefault => cases hblank
    | settings file => cases hblank

theorem isRefused_eq_false_iff {u : Use} :
    u.isRefused = false ↔ u.isBlank = false ∧ leads u.file = true := by
  rw [isRefused, Bool.or_eq_false_iff, Bool.not_eq_false']

/-- The place that a use gets what it gives from, if it gives something. -/
def place? (u : Use) (s : State) : Option Nat :=
  if u.isRefused then none else (Shared.place u.file u.asDefault s).1.toOption

/-- **A use gets what it gives from a place,** which is that of a configuration. -/
structure From (u : Use) (s : State) (i : Nat) : Prop where
  place : u.place? s = some i
  answer : ∃ c, (u.perform s).2.1.at? i = some c ∧ (u.perform s).1 = .ok (u.answer i c)

end Use

/-! ### Histories -/

/-- Something that happened to the shared configurations. They were used: what the use was about,
whether it makes the default what it names, and the place that it got, if it did not fail; or they
were forgotten. -/
inductive Event where
  | used (target : Option Path) (pins : Bool) (place : Option Nat)
  | forgotten
deriving DecidableEq

namespace Event

/-- Whether everything was forgotten. -/
def isForgotten : Event → Bool
  | .used _ _ _ => false
  | .forgotten => true

/-- The place that was made the default. -/
def pinned? : Event → Option Nat
  | .used (some _) true place => place
  | _ => none

/-- The place that was got without a path. -/
def opened? : Event → Option Nat
  | .used none _ place => place
  | _ => none

end Event

/-- What happened since everything was forgotten last. -/
def recent (h : List Event) : List Event :=
  h.rtakeWhile fun e => !e.isForgotten

/-- The place that was made the default last, since everything was forgotten. -/
def lastPinned? (h : List Event) : Option Nat :=
  (recent h).reverse.findSome? Event.pinned?

/-- The place that was got without a path first, since everything was forgotten. -/
def firstOpened? (h : List Event) : Option Nat :=
  (recent h).findSome? Event.opened?

/-- A place was got under a path, since everything was forgotten. -/
def GotUnder (h : List Event) (p : Path) (i : Nat) : Prop :=
  ∃ pins, Event.used (some p) pins (some i) ∈ recent h

/-- What is done around shared configurations: they are used or forgotten, or anything around them
changes. -/
inductive Step where
  | use (u : Use)
  | forget
  | change (around : Surroundings)

/-- How far things have come, and what happened until then. -/
structure Course where
  state : State
  history : List Event := []

namespace Course

/-- **The course** of things after one more step. -/
def next (c : Course) : Step → Course
  | .use u =>
    ⟨(u.perform c.state).2, c.history ++ [.used (u.target c.state) u.pins (u.place? c.state)]⟩
  | .forget => ⟨(Shared.forget c.state).2, c.history ++ [.forgotten]⟩
  | .change around => ⟨(c.state.1, around, c.state.2.2), c.history⟩

/-- The course of things after steps. -/
def after (c : Course) (steps : List Step) : Course :=
  steps.foldl next c

/-- **What is kept agrees with what happened.** The default is what was made the default last, or
else what was got without a path first. Under a path is what was got under it, and every place that
is kept is that of a configuration. -/
structure Agrees (c : Course) : Prop where
  default : c.state.1.default = (lastPinned? c.history).or (firstOpened? c.history)
  byPath : ∀ p i, c.state.1.byPath.lookup p = some i ↔ GotUnder c.history p i
  made : ∀ target i, c.state.1.kept? target = some i → i < c.state.1.made.length

/-- Where nothing is kept, nothing has happened. -/
theorem agrees_start {s : State} (hdefault : s.1.default = none) (hpaths : s.1.byPath = []) :
    Agrees ⟨s, []⟩ where
  default := hdefault
  byPath p i := by
    rw [hpaths]
    exact iff_of_false nofun fun ⟨_, h⟩ => nomatch h
  made target i h := by
    cases target with
    | none => rw [kept?, hdefault] at h; cases h
    | some p => rw [kept?, hpaths] at h; cases h

end Course

theorem recent_append_used (h : List Event) (target : Option Path) (pins : Bool)
    (place : Option Nat) :
    recent (h ++ [.used target pins place]) = recent h ++ [.used target pins place] :=
  List.rtakeWhile_concat_pos _ _ _ rfl

theorem recent_append_forgotten (h : List Event) : recent (h ++ [.forgotten]) = [] :=
  List.rtakeWhile_concat_neg _ _ _ nofun

theorem lastPinned?_append_used (h : List Event) (target : Option Path) (pins : Bool)
    (place : Option Nat) : lastPinned? (h ++ [.used target pins place]) =
      (Event.used target pins place).pinned?.or (lastPinned? h) := by
  rw [lastPinned?, recent_append_used, List.reverse_append, List.reverse_singleton,
    List.singleton_append, List.findSome?_cons]
  cases (Event.used target pins place).pinned? <;> rfl

theorem firstOpened?_append_used (h : List Event) (target : Option Path) (pins : Bool)
    (place : Option Nat) : firstOpened? (h ++ [.used target pins place]) =
      (firstOpened? h).or (Event.used target pins place).opened? := by
  rw [firstOpened?, recent_append_used, List.findSome?_append, List.findSome?_singleton]
  rfl

theorem gotUnder_append_used {h : List Event} {target : Option Path} {pins : Bool}
    {place : Option Nat} {p : Path} {i : Nat} : GotUnder (h ++ [.used target pins place]) p i ↔
      GotUnder h p i ∨ target = some p ∧ place = some i := by
  simp only [GotUnder, recent_append_used, List.mem_append, List.mem_singleton,
    Event.used.injEq, exists_or]
  exact or_congr_right ⟨fun ⟨_, ht, _, hp⟩ => ⟨ht.symm, hp.symm⟩,
    fun ⟨ht, hp⟩ => ⟨pins, ht.symm, rfl, hp.symm⟩⟩

theorem opened?_eq_some {target : Option Path} {pins : Bool} {place : Option Nat} {i : Nat}
    (h : (Event.used target pins place).opened? = some i) : place = some i := by
  cases target with
  | none => exact h
  | some p => cases h

theorem pinned?_eq_some {target : Option Path} {pins : Bool} {place : Option Nat} {i : Nat}
    (h : (Event.used target pins place).pinned? = some i) : place = some i := by
  cases target with
  | none => cases h
  | some p =>
    cases pins with
    | true => exact h
    | false => cases h

/-! ### What one call keeps -/

section Placed

variable {s : State} {target : Option Path} {pins : Bool} {r : Except Fault Nat} {k : Shared}

/-- **The default** after a call is the one that it made the default, or else the one of before, or
else the one that it read without a path. -/
theorem Placed.default (h : Placed s target pins r k) (hpins : target = none → pins = false) :
    k.default = (Event.used target pins r.toOption).pinned?.or
      (s.1.default.or (Event.used target pins r.toOption).opened?) := by
  cases target with
  | none =>
    obtain rfl := hpins rfl
    cases h with
    | kept hkept =>
      have hdefault : s.1.default = some _ := hkept
      rw [hdefault]
      exact hdefault
    | failed hnew hload =>
      exact (Option.or_none).symm
    | read hnew hload =>
      have hdefault : s.1.default = none := hnew
      rw [hdefault]
      rfl
  | some p =>
    have hopened : (Event.used (some p) pins r.toOption).opened? = none := rfl
    rw [hopened, Option.or_none]
    cases h <;> cases pins <;> rfl

/-- What is kept after a call was kept before, or the call got it. -/
theorem Placed.kept_or_got (h : Placed s target pins r k) (hpins : target = none → pins = false)
    {other : Option Path} {i : Nat} (hi : k.kept? other = some i) :
    s.1.kept? other = some i ∨ r.toOption = some i := by
  cases other with
  | none =>
    have hdefault : k.default = some i := hi
    rw [h.default hpins, Option.or_eq_some_iff, Option.or_eq_some_iff] at hdefault
    rcases hdefault with hpinned | ⟨-, hold | ⟨-, hopened⟩⟩
    · exact .inr (pinned?_eq_some hpinned)
    · exact .inl hold
    · exact .inr (opened?_eq_some hopened)
  | some p => exact ((h.lookup p i).mp hi).imp_right And.right

end Placed

namespace Use

variable {u : Use}

theorem pins_of_target {s : State} (h : u.target s = none) : u.pins = false := by
  have hfile : u.file = none := Option.map_eq_none_iff.mp h
  rw [pins, hfile, Option.isSome_none, Bool.and_false]

/-- **What a use that is not refused can come to.** -/
theorem placed (h : u.isRefused = false) (s : State) :
    Placed s (u.target s) u.pins (Shared.place u.file u.asDefault s).1 (u.perform s).2.1 := by
  obtain ⟨hblank, hleads⟩ := isRefused_eq_false_iff.mp h
  have hshared : (u.perform s).2 = (Shared.place u.file u.asDefault s).2 := by
    rw [perform_run hblank]
    rcases Shared.place u.file u.asDefault s with ⟨e | i, t⟩ <;> rfl
  rw [hshared]
  exact place_cases hleads u.asDefault s

theorem place?_of_not_refused (h : u.isRefused = false) (s : State) :
    u.place? s = (Shared.place u.file u.asDefault s).1.toOption := by
  rw [place?, if_neg (by rw [h]; exact nofun)]

theorem place?_of_refused (h : u.isRefused = true) (s : State) : u.place? s = none :=
  if_pos h

end Use

/-! ### What all steps keep -/

namespace Course

variable {c : Course}

theorem Agrees.use (h : c.Agrees) (u : Use) : (c.next (.use u)).Agrees := by
  cases hrefused : u.isRefused with
  | true =>
    obtain ⟨e, hperform⟩ := Use.perform_refused hrefused c.state
    have hpinned : (Event.used (u.target c.state) u.pins none).pinned? = none :=
      Option.eq_none_iff_forall_ne_some.mpr fun i hi => nomatch pinned?_eq_some hi
    have hopened : (Event.used (u.target c.state) u.pins none).opened? = none :=
      Option.eq_none_iff_forall_ne_some.mpr fun i hi => nomatch opened?_eq_some hi
    rw [next, hperform, Use.place?_of_refused hrefused]
    constructor
    · rw [lastPinned?_append_used, firstOpened?_append_used, hpinned, hopened, Option.none_or,
        Option.or_none]
      exact h.default
    · intro p i
      rw [gotUnder_append_used, ← h.byPath]
      exact (or_iff_left nofun).symm
    · exact h.made
  | false =>
    have hplaced := Use.placed hrefused c.state
    have hplace := Use.place?_of_not_refused hrefused c.state
    constructor
    · rw [next, lastPinned?_append_used, firstOpened?_append_used, hplace,
        hplaced.default Use.pins_of_target, h.default]
      simp only [Option.or_assoc]
    · intro p i
      rw [next, gotUnder_append_used, ← h.byPath, hplace]
      exact hplaced.lookup p i
    · intro target i hi
      rcases hplaced.kept_or_got Use.pins_of_target hi with hold | hgot
      · exact (h.made target i hold).trans_le hplaced.made_grows.length_le
      · exact hplaced.place_lt (h.made _) hgot

/-- **One step** keeps what is kept in agreement with what happened. -/
theorem Agrees.next (h : c.Agrees) : ∀ step, (c.next step).Agrees
  | .use u => h.use u
  | .change _ => ⟨h.default, h.byPath, h.made⟩
  | .forget => by
    have hstart := agrees_start (s := (Shared.forget c.state).2) rfl rfl
    refine ⟨?_, fun p i => ?_, hstart.made⟩
    · rw [Course.next, lastPinned?, firstOpened?, recent_append_forgotten]
      rfl
    · rw [Course.next, GotUnder, recent_append_forgotten]
      exact hstart.byPath p i

/-- **All steps** do, by induction on the steps. -/
theorem Agrees.after (h : c.Agrees) (steps : List Step) : (c.after steps).Agrees := by
  induction steps generalizing c with
  | nil => exact h
  | cons step rest ih => exact ih (h.next step)

end Course

/-! ### The law -/

/-- Nothing that happened since everything was forgotten serves a use of a path or the default. -/
def Unserved (h : List Event) : Option Path → Prop
  | none => lastPinned? h = none ∧ firstOpened? h = none
  | some p => ∀ i, ¬ GotUnder h p i

/-- **What a use comes to,** told by what happened before it. Under a path it gets what was got
under it before, wherever the file is now; without a path, what was made the default last, or else
what was got without a path first. If nothing serves it, it reads its file now, and fails only if
that fails. What it gives it gets from a place, and if it fails, whatever is kept stays as it is.
With a path, and if it is not told to, it does not change the default. No configuration that was
ever made changes. -/
structure Use.Lawful (u : Use) (c : Course) : Prop where
  samePath : u.isRefused = false → ∀ p i, u.target c.state = some p → GotUnder c.history p i →
    u.From c.state i
  pinned : u.isRefused = false → u.file = none → ∀ i, lastPinned? c.history = some i →
    u.From c.state i
  opened : u.isRefused = false → u.file = none → lastPinned? c.history = none →
    ∀ i, firstOpened? c.history = some i → u.From c.state i
  reads : u.isRefused = false → Unserved c.history (u.target c.state) →
    match (loading c.state (u.target c.state)).1 with
    | .ok new => u.From c.state c.state.1.made.length ∧
        (u.perform c.state).2.1.at? c.state.1.made.length = some new
    | .error e => (u.perform c.state).1 = .error e
  succeeds : ∀ a, (u.perform c.state).1 = .ok a → ∃ i, u.From c.state i
  fails : ∀ e, (u.perform c.state).1 = .error e → (u.perform c.state).2.1 = c.state.1
  keepsDefault : u.file ≠ none → u.asDefault = false →
    (u.perform c.state).2.1.default = c.state.1.default
  keepsMade : c.state.1.made <+: (u.perform c.state).2.1.made

namespace Course

variable {c : Course} {u : Use}

theorem Agrees.kept?_eq_none_iff (h : c.Agrees) (target : Option Path) :
    c.state.1.kept? target = none ↔ Unserved c.history target := by
  cases target with
  | none => rw [kept?, h.default, Option.or_eq_none_iff, Unserved]
  | some p =>
    rw [kept?, Unserved, Option.eq_none_iff_forall_ne_some]
    exact forall_congr' fun i => not_congr (h.byPath p i)

section NotRefused

variable (h : c.Agrees) (hrefused : u.isRefused = false)
include h hrefused

/-- A use that got a place gives what the configuration at this place gives. -/
theorem Agrees.from_of_place {i : Nat}
    (hi : (Shared.place u.file u.asDefault c.state).1 = .ok i) : u.From c.state i := by
  have hplaced := Use.placed hrefused c.state
  have hlt := hplaced.place_lt (h.made _) (congrArg Except.toOption hi)
  have hat := List.getElem?_eq_getElem hlt
  refine ⟨?_, _, hat, Use.perform_of_place (Use.isRefused_eq_false_iff.mp hrefused).1 hi hat⟩
  rw [Use.place?_of_not_refused hrefused, hi]
  rfl

theorem Agrees.from_of_kept {i : Nat} (hi : c.state.1.kept? (u.target c.state) = some i) :
    u.From c.state i :=
  h.from_of_place hrefused ((Use.placed hrefused c.state).of_kept hi)

theorem Agrees.reads (hnew : c.state.1.kept? (u.target c.state) = none) :
    match (loading c.state (u.target c.state)).1 with
    | .ok new => u.From c.state c.state.1.made.length ∧
        (u.perform c.state).2.1.at? c.state.1.made.length = some new
    | .error e => (u.perform c.state).1 = .error e := by
  have hplaced := Use.placed hrefused c.state
  cases hload : (loading c.state (u.target c.state)).1 with
  | error e =>
    exact (Use.perform_eq_error_iff (Use.isRefused_eq_false_iff.mp hrefused).1).mpr
      (hplaced.of_loading_error hnew hload)
  | ok new =>
    obtain ⟨hplace, hat⟩ := hplaced.of_loading_ok hnew hload
    exact ⟨h.from_of_place hrefused hplace, hat⟩

end NotRefused

/-- **What follows from the agreement** for the next use. -/
theorem Agrees.lawful (h : c.Agrees) (u : Use) : u.Lawful c where
  samePath hrefused p i htarget hgot :=
    h.from_of_kept hrefused (htarget ▸ (h.byPath p i).mpr hgot)
  pinned hrefused hfile i hi := by
    have htarget : u.target c.state = none := Option.map_eq_none_iff.mpr hfile
    refine h.from_of_kept hrefused ?_
    rw [htarget, kept?, h.default, hi, Option.some_or]
  opened hrefused hfile hpinned i hi := by
    have htarget : u.target c.state = none := Option.map_eq_none_iff.mpr hfile
    refine h.from_of_kept hrefused ?_
    rw [htarget, kept?, h.default, hpinned, hi, Option.none_or]
  reads hrefused hnew := h.reads hrefused ((h.kept?_eq_none_iff _).mpr hnew)
  succeeds a ha := by
    cases hrefused : u.isRefused with
    | true =>
      obtain ⟨e, he⟩ := Use.perform_refused hrefused c.state
      rw [he] at ha
      cases ha
    | false =>
      cases hplace : (Shared.place u.file u.asDefault c.state).1 with
      | ok i => exact ⟨i, h.from_of_place hrefused hplace⟩
      | error e =>
        rw [(Use.perform_eq_error_iff (Use.isRefused_eq_false_iff.mp hrefused).1).mpr hplace] at ha
        cases ha
  fails e he := by
    cases hrefused : u.isRefused with
    | true =>
      obtain ⟨e', he'⟩ := Use.perform_refused hrefused c.state
      rw [he']
    | false =>
      have hblank := (Use.isRefused_eq_false_iff.mp hrefused).1
      exact (Use.placed hrefused c.state).of_error ((Use.perform_eq_error_iff hblank).mp he)
  keepsDefault hfile hasDefault := by
    cases hrefused : u.isRefused with
    | true =>
      obtain ⟨e, he⟩ := Use.perform_refused hrefused c.state
      rw [he]
    | false =>
      have hpins : u.pins = false := by rw [Use.pins, hasDefault, Bool.false_and]
      have htarget : u.target c.state ≠ none := fun h => hfile (Option.map_eq_none_iff.mp h)
      obtain ⟨p, hp⟩ := Option.ne_none_iff_exists'.mp htarget
      rw [(Use.placed hrefused c.state).default Use.pins_of_target, hpins, hp]
      exact Option.or_none
  keepsMade := by
    cases hrefused : u.isRefused with
    | true =>
      obtain ⟨e, he⟩ := Use.perform_refused hrefused c.state
      exact ⟨[], by rw [he, List.append_nil]⟩
    | false => exact (Use.placed hrefused c.state).made_grows

end Course

/-- **Which configuration a use gets** follows from what happened since everything was forgotten
last, whatever changed around the shared configurations meanwhile. -/
theorem shared_use_lawful {s : State} (hdefault : s.1.default = none) (hpaths : s.1.byPath = [])
    (steps : List Step) (u : Use) : u.Lawful ((⟨s, []⟩ : Course).after steps) :=
  ((Course.agrees_start hdefault hpaths).after steps).lawful u

/-- Surroundings with one file of settings in the root, and those without. -/
def oneFile : Surroundings :=
  { files := ⟨[(["a.yml"], .file "k: v".toUTF8.toList)]⟩ }

/-- A file is missing at first, is made the default once it is there, and vanishes again. -/
def vanishing : List Step :=
  [.use (.settings (some "a.yml")), .change oneFile, .use (.config (some "./a.yml") true),
    .change {}]

/-- The configuration that was read while the file was there is used under another way to write its
path, and without a path. -/
theorem shared_use_lawful_of_vanished_file :
    let c := (⟨({}, {}, []), []⟩ : Course).after vanishing
    Use.From (.settings (some "b/../a.yml")) c.state 0 ∧
      Use.From (.setting "k" .null none) c.state 0 := by
  intro c
  have hhistory : c.history = [.used (some ⟨"/", ["a.yml"]⟩) false none,
      .used (some ⟨"/", ["a.yml"]⟩) true (some 0)] := by decide +kernel
  have hpath := shared_use_lawful (s := ({}, {}, [])) rfl rfl vanishing
    (.settings (some "b/../a.yml"))
  have hdefault := shared_use_lawful (s := ({}, {}, [])) rfl rfl vanishing (.setting "k" .null none)
  constructor
  · refine hpath.samePath (by decide +kernel) ⟨"/", ["a.yml"]⟩ 0 (by decide +kernel) ?_
    exact hhistory ▸ ⟨true, by decide⟩
  · refine hdefault.pinned (by decide +kernel) rfl 0 ?_
    exact hhistory ▸ by decide

end ItemCatalog.Config.Shared
