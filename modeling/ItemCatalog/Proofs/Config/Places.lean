import ItemCatalog.Config.Shared
import ItemCatalog.Proofs.Log.Console

/-! # Places: what a call for a shared configuration comes to

A call is about a path, wherever it leads to from the working directory, or about the default. It
gets the place that is kept for that, and reads nothing; if none is kept, it reads the file now, and
keeps what it read (`sought`). `Placed` tells what a call can come to, one constructor for each way
(`place_cases`), and the lemmas after it tell what is kept then. -/

namespace ItemCatalog.Config.Shared

open Files

/-- What work on shared configurations reads and changes. -/
abbrev State := Shared × Surroundings × List Log.Record

/-! ### Runs -/

section Runs

variable {σ α β : Type}

theorem bind_run (w : ExceptT Fault (StateM σ) α) (f : α → ExceptT Fault (StateM σ) β) (s : σ) :
    (w >>= f) s = match w s with
      | (.ok a, t) => f a t
      | (.error e, t) => (.error e, t) := by
  change ExceptT.bindCont f (w s).1 (w s).2 = _
  rcases w s with ⟨e | a, t⟩ <;> rfl

theorem map_run (g : α → β) (w : SharedWork α) (s : State) :
    (g <$> w) s = ((w s).1.map g, (w s).2) := by
  rw [map_eq_pure_bind, bind_run]
  rcases w s with ⟨e | a, t⟩ <;> rfl

theorem get_run (s : State) : (MonadState.get : SharedWork State) s = (.ok s, s) := rfl

theorem lift_run (w : Work α) (s : State) : lift w s = ((w s.2).1, s.1, (w s.2).2) := rfl

theorem say_of_takes {log : List Log.Record} {s : Surroundings × List Log.Record}
    (h : s.1.console.Takes log) : say log s = (.ok (), s.1, s.2 ++ log) := by
  simp only [say, noting, Log.Console.noting, Log.Console.said_of_takes h,
    Log.Console.take_of_takes h]
  rfl

theorem change_bind (f : Shared → Shared) (w : SharedWork α) (s : State) :
    (change f >>= fun _ => w) s = w (f s.1, s.2) := rfl

/-- What the console takes is said, and the work goes on. -/
theorem say_bind_of_takes {log : List Log.Record} {s : State} (h : s.2.1.console.Takes log)
    (w : SharedWork α) : (lift (say log) >>= fun _ => w) s = w (s.1, s.2.1, s.2.2 ++ log) := by
  rw [bind_run, lift_run, say_of_takes h]

end Runs

theorem read_run (file : Option String) (s : State) :
    read file s = match load file s.2 with
      | (.ok c, t) => (.ok s.1.made.length, { s.1 with made := s.1.made ++ [c] }, t)
      | (.error e, t) => (.error e, s.1, t) := by
  rw [read, bind_run, lift_run]
  rcases load file s.2 with ⟨e | c, t⟩ <;> rfl

/-! ### One call -/

/-- The place that is kept for a path, or as the default. -/
def kept? (k : Shared) : Option Path → Option Nat
  | none => k.default
  | some p => k.byPath.lookup p

/-- Keeps a place for a path, or as the default. -/
def keep (k : Shared) (i : Nat) : Option Path → Shared
  | none => { k with default := some i }
  | some p => { k with byPath := k.byPath ++ [(p, i)] }

/-- Makes a place the default, if that is wanted. -/
def pin (k : Shared) (wanted : Bool) (i : Nat) : Shared :=
  if wanted then { k with default := some i } else k

/-- What a call is about: a path, wherever it leads from the working directory, or the default. -/
def targetOf (around : Surroundings) (file : Option String) : Option Path :=
  file.map fun f => around.resolve (.ofText f)

/-- The file that is read for a path, or for the default. -/
def fileOf (around : Surroundings) : Option Path → Option String
  | none => (around.environment.get? fileVariable).filter (· ≠ "")
  | some p => some p.render

/-- What is said before the file of a path is read. -/
def announcement : Option Path → List Log.Record
  | none => []
  | some p => [Log.config Log.info s!"Loading configuration from explicit path: {p.render}"]

/-- What is said when what was read is kept. -/
def confirmation : Option Path → List Log.Record
  | none => [Log.config Log.info "Initialized default configuration system"]
  | some _ => []

/-- What is said when the configuration of a path is made the default. -/
def pinNotice : Option Path → List Log.Record
  | none => []
  | some p => [Log.config Log.debug s!"Set explicit config as default: {p.render}"]

/-- **Reading now** the file of a path, or that of the default. -/
def loading (s : State) (target : Option Path) :
    Except Fault Config × Surroundings × List Log.Record :=
  (do say (announcement target); load (fileOf s.2.1 target) : Work Config) s.2

theorem loading_none (s : State) : loading s none = load (fileOf s.2.1 none) s.2 := by
  have hsaid : say [] s.2 = (.ok (), s.2) := by
    rw [say_of_takes .nil, List.append_nil]
  rw [loading, bind_run, announcement, hsaid]

theorem confirmation_takes (console : Log.Console) (target : Option Path) :
    console.Takes (confirmation target) := by
  cases target with
  | none =>
    exact Log.Console.takes_plain
      (List.forall_mem_singleton.mpr ⟨_, by decide +kernel, Or.inr ⟨_, rfl⟩⟩)
  | some p => exact .nil

theorem pinNotice_takes (console : Log.Console) (target : Option Path) :
    console.Takes (pinNotice target) := by
  cases target with
  | none => exact .nil
  | some p =>
    exact Log.Console.takes_details (List.forall_mem_singleton.mpr
      (show Log.debug < Log.info by decide))

/-- What a call comes to before anything is made the default: the place that is kept, or else that
of what is read now. -/
def sought (s : State) (target : Option Path) : Except Fault Nat × State :=
  match s.1.kept? target with
  | some i => (.ok i, s)
  | none => match loading s target with
    | (.error e, t) => (.error e, s.1, t)
    | (.ok c, t) =>
      let i := s.1.made.length
      (.ok i, ({ s.1 with made := s.1.made ++ [c] } : Shared).keep i target,
        t.1, t.2 ++ confirmation target)

theorem defaultPlace_run (s : State) : defaultPlace s = sought s none := by
  obtain ⟨⟨made, default, byPath⟩, around, log⟩ := s
  cases default with
  | some i => rfl
  | none =>
    change (Shared.read _ >>= _ : SharedWork Nat) _ = _
    rw [bind_run, read_run, sought, loading_none]
    simp only [fileOf, kept?]
    rcases load _ (around, log) with ⟨e | c, t⟩
    · rfl
    · simp only []
      rw [change_bind]
      exact say_bind_of_takes (confirmation_takes t.1.console none) (pure made.length)

theorem pathPlace_run (p : Path) (s : State) : pathPlace p s = sought s (some p) := by
  rw [pathPlace, bind_run, sought, kept?]
  change (match s.1.byPath.lookup p with
    | some i => pure i
    | none => _ : SharedWork Nat) s = _
  cases s.1.byPath.lookup p with
  | some i => rfl
  | none =>
    simp only []
    rw [bind_run, lift_run, loading, bind_run]
    simp only [fileOf]
    rw [show [Log.config Log.info s!"Loading configuration from explicit path: {p.render}"] =
      announcement (some p) from rfl]
    rcases say (announcement (some p)) s.2 with ⟨e | _, t⟩
    · rfl
    · simp only []
      rw [bind_run, read_run]
      rcases load (some p.render) t with ⟨e | c, around, log⟩
      · rfl
      · simp only [confirmation, List.append_nil]
        rfl

/-- Whether a path can lead anywhere: it does not hold the character that ends all paths. -/
def leads (file : Option String) : Bool :=
  file.all fun f => !f.toList.contains '\x00'

theorem place_of_not_leads {file : Option String} (h : leads file = false) (asDefault : Bool)
    (s : State) : place file asDefault s = (.error endedPath, s) := by
  cases file with
  | none => cases h
  | some f =>
    have hends : f.toList.contains '\x00' = true := by simpa [leads] using h
    rw [place]
    simp only []
    rw [if_pos hends]
    rfl

theorem place_run {file : Option String} (h : leads file = true) (asDefault : Bool) (s : State) :
    place file asDefault s = match sought s (targetOf s.2.1 file) with
      | (.error e, t) => (.error e, t)
      | (.ok i, t) =>
        if asDefault && file.isSome then
          (.ok i, t.1.pin true i, t.2.1, t.2.2 ++ pinNotice (targetOf s.2.1 file))
        else (.ok i, t) := by
  cases file with
  | none =>
    rw [place, defaultPlace_run, targetOf, Option.map_none, Option.isSome_none, Bool.and_false]
    rcases sought s none with ⟨e | i, t⟩ <;> rfl
  | some f =>
    have hends : f.toList.contains '\x00' = false := by simpa [leads] using h
    rw [targetOf, Option.map_some, Option.isSome_some, Bool.and_true, place]
    simp only []
    rw [if_neg (by rw [hends]; exact nofun), bind_run]
    simp only [get_run]
    rw [bind_run, pathPlace_run]
    rcases sought s (some (s.2.1.resolve (.ofText f))) with ⟨e | i, t⟩
    · rfl
    · cases asDefault with
      | false => rfl
      | true =>
        simp only [if_true]
        rw [change_bind]
        exact say_bind_of_takes (s := (t.1.pin true i, t.2)) (pinNotice_takes t.2.1.console
          (some (s.2.1.resolve (.ofText f)))) (pure i)

/-- **What a call can come to,** and what is kept after it: a configuration that is kept is used,
and nothing is read; if none is kept, one is read and kept, unless none can be read. -/
inductive Placed (s : State) (target : Option Path) (pins : Bool) :
    Except Fault Nat → Shared → Prop
  | kept {i : Nat} (h : s.1.kept? target = some i) :
      Placed s target pins (.ok i) (s.1.pin pins i)
  | failed {e : Fault} (hnew : s.1.kept? target = none) (hload : (loading s target).1 = .error e) :
      Placed s target pins (.error e) s.1
  | read {c : Config} (hnew : s.1.kept? target = none) (hload : (loading s target).1 = .ok c) :
      Placed s target pins (.ok s.1.made.length)
        ((({ s.1 with made := s.1.made ++ [c] } : Shared).keep s.1.made.length target).pin pins
          s.1.made.length)

theorem place_cases {file : Option String} (h : leads file = true) (asDefault : Bool) (s : State) :
    Placed s (targetOf s.2.1 file) (asDefault && file.isSome) (place file asDefault s).1
      (place file asDefault s).2.1 := by
  rw [place_run h, sought]
  cases hkept : s.1.kept? (targetOf s.2.1 file) with
  | some i => cases asDefault && file.isSome <;> exact .kept hkept
  | none =>
    rcases hload : loading s (targetOf s.2.1 file) with ⟨e | c, t⟩
    · exact .failed hkept (congrArg Prod.fst hload)
    · cases asDefault && file.isSome <;> exact .read hkept (congrArg Prod.fst hload)

/-! ### What is kept after a call -/

section Placed

variable {s : State} {target : Option Path} {pins : Bool} {r : Except Fault Nat} {k : Shared}

theorem pin_byPath (k : Shared) (wanted : Bool) (i : Nat) : (k.pin wanted i).byPath = k.byPath := by
  cases wanted <;> rfl

theorem pin_made (k : Shared) (wanted : Bool) (i : Nat) : (k.pin wanted i).made = k.made := by
  cases wanted <;> rfl

/-- **Under a path** is after a call what was there, or what the call got under it. -/
theorem Placed.lookup (h : Placed s target pins r k) (p : Path) (i : Nat) :
    k.byPath.lookup p = some i ↔
      s.1.byPath.lookup p = some i ∨ target = some p ∧ r.toOption = some i := by
  cases h with
  | kept hkept =>
    rw [pin_byPath]
    refine (or_iff_left_of_imp ?_).symm
    rintro ⟨rfl, hi⟩
    exact hkept.trans hi
  | failed hnew hload => exact (or_iff_left nofun).symm
  | read hnew hload =>
    rw [pin_byPath]
    cases target with
    | none => exact (or_iff_left nofun).symm
    | some q =>
      have hlookup : s.1.byPath.lookup q = none := hnew
      rw [keep, List.lookup_append]
      by_cases hq : q = p
      · subst hq
        rw [hlookup, Option.none_or, List.lookup_cons, beq_self_eq_true]
        exact ⟨fun hi => .inr ⟨rfl, hi⟩, fun hi => (hi.resolve_left nofun).2⟩
      · rw [List.lookup_cons, beq_false_of_ne (Ne.symm hq)]
        rw [List.lookup_nil, Option.or_none]
        exact (or_iff_left fun hi => hq (Option.some.inj hi.1)).symm

/-- A call leaves what was made, and may add one configuration. -/
theorem Placed.made_grows (h : Placed s target pins r k) : s.1.made <+: k.made := by
  cases h with
  | kept hkept => exact ⟨[], by rw [pin_made, List.append_nil]⟩
  | failed hnew hload => exact List.prefix_rfl
  | read hnew hload =>
    rw [pin_made]
    cases target <;> exact List.prefix_append _ _

/-- The place that a call got is that of a configuration, if all that was kept are such places. -/
theorem Placed.place_lt (h : Placed s target pins r k)
    (hmade : ∀ i, s.1.kept? target = some i → i < s.1.made.length) {i : Nat}
    (hi : r.toOption = some i) : i < k.made.length := by
  cases h with
  | kept hkept =>
    obtain rfl := Option.some.inj hi
    rw [pin_made]
    exact hmade _ hkept
  | failed hnew hload => cases hi
  | read hnew hload =>
    obtain rfl := Option.some.inj hi
    rw [pin_made]
    cases target <;> simp [keep]

theorem Placed.of_kept (h : Placed s target pins r k) {i : Nat} (hi : s.1.kept? target = some i) :
    r = .ok i := by
  cases h with
  | kept hkept => rw [Option.some.inj (hkept.symm.trans hi)]
  | failed hnew hload => cases hnew.symm.trans hi
  | read hnew hload => cases hnew.symm.trans hi

theorem Placed.of_loading_error (h : Placed s target pins r k) (hnew : s.1.kept? target = none)
    {e : Fault} (he : (loading s target).1 = .error e) : r = .error e := by
  cases h with
  | kept hkept => cases hkept.symm.trans hnew
  | failed hnew hload => rw [Except.error.inj (hload.symm.trans he)]
  | read hnew hload => cases hload.symm.trans he

theorem Placed.of_loading_ok (h : Placed s target pins r k) (hnew : s.1.kept? target = none)
    {c : Config} (hc : (loading s target).1 = .ok c) :
    r = .ok s.1.made.length ∧ k.at? s.1.made.length = some c := by
  cases h with
  | kept hkept => cases hkept.symm.trans hnew
  | failed hnew hload => cases hload.symm.trans hc
  | read hnew hload =>
    obtain rfl := Except.ok.inj (hload.symm.trans hc)
    refine ⟨rfl, ?_⟩
    rw [Shared.at?, pin_made]
    cases target <;> exact List.getElem?_concat_length

theorem Placed.of_error (h : Placed s target pins r k) {e : Fault} (he : r = .error e) :
    k = s.1 := by
  cases h with
  | kept hkept => cases he
  | failed hnew hload => rfl
  | read hnew hload => cases he

end Placed

end ItemCatalog.Config.Shared
