import ItemCatalog.Log.Scope
import Mathlib.Data.List.Basic
import Mathlib.Tactic.SplitIfs

/-! # Blocks: what programs that change loggers leave

A program says things, sets levels, raises faults, catches some of them, and runs parts of itself in
blocks, each of which gives loggers a filter or a level for as long as its part runs. The type of a
program lists the loggers that the blocks around it give a level to; it sets no levels but theirs.
After a program that stands in no block every level and every filter is what it was before, and the
fault that it ends with is the one that was raised last, if it was not caught (`run_restores`).

* `Scope.leave_kept`: leaving a block gives back what entering it changed;
* `Program.run_kept`: a program changes only the levels that its type lists, by induction on the
  program. -/

namespace ItemCatalog.Log

namespace Registry

/-! ### Levels -/

theorem level_congr (r : Registry) {name other : String} (h : knownName name = knownName other) :
    r.level name = r.level other := by
  rw [level, level, h]

theorem lookup_filter_ne {name other : String} (h : other ≠ name) (levels : List (String × Int)) :
    (levels.filter fun e => e.1 != name).lookup other = levels.lookup other := by
  induction levels with
  | nil => rfl
  | cons e rest ih =>
    rw [List.filter_cons, List.lookup_cons]
    split_ifs with he
    · rw [List.lookup_cons, ih]
    · have hname : e.1 = name := by simpa using he
      rw [ih, hname, beq_false_of_ne h]

/-- **The level of a logger** after a level was set. -/
theorem level_setLevel (r : Registry) (name other : String) (level : Int) :
    (r.setLevel name level).level other =
      if knownName other = knownName name then level else r.level other := by
  rw [setLevel, Registry.level]
  simp only [List.lookup_cons]
  split_ifs with h
  · rw [h, beq_self_eq_true]
    rfl
  · rw [beq_false_of_ne h, lookup_filter_ne h]
    rfl

/-- After levels were set that agree on a logger, the logger has that level. -/
theorem level_setLevels {levels : List (String × Int)} {name : String} {level : Int}
    (hagree : ∀ e ∈ levels, knownName e.1 = knownName name → e.2 = level) {r : Registry}
    (hset : r.level name = level ∨ ∃ e ∈ levels, knownName e.1 = knownName name) :
    (r.setLevels levels).level name = level := by
  induction levels generalizing r with
  | nil => exact hset.resolve_right (by simp)
  | cons e rest ih =>
    refine ih (fun e' he' => hagree e' (List.mem_cons_of_mem _ he')) ?_
    rw [level_setLevel]
    split_ifs with he
    · exact .inl (hagree e List.mem_cons_self he.symm)
    · rcases hset with hlevel | ⟨e', he', hname⟩
      · exact .inl hlevel
      · rcases List.mem_cons.mp he' with rfl | hrest
        · exact absurd hname.symm he
        · exact .inr ⟨e', hrest, hname⟩

theorem setLevels_filters (r : Registry) (levels : List (String × Int)) :
    (r.setLevels levels).filters = r.filters := by
  induction levels generalizing r with
  | nil => rfl
  | cons e rest ih => exact ih (r.setLevel e.1 e.2)

theorem setLevels_made (r : Registry) (levels : List (String × Int)) :
    (r.setLevels levels).made = r.made := by
  induction levels generalizing r with
  | nil => rfl
  | cons e rest ih => exact ih (r.setLevel e.1 e.2)

/-! ### Filters -/

/-- A filter that was given to loggers leaves nothing behind when it is taken from all of them. -/
theorem filter_addFilter (r : Registry) (names : List String) (f : Filter) :
    ((r.addFilter names f).filters.filter fun e => e.2.1 != r.made) = r.filters := by
  have hold : (r.filters.filter fun e => e.2.1 != r.made) = r.filters :=
    List.filter_eq_self.mpr fun e he => by
      simpa using Nat.ne_of_lt (r.numbered e he)
  rw [addFilter, List.filter_append, hold]
  simp

/-! ### What is said -/

theorem effectiveLevel_congr {r r' : Registry} (h : ∀ name, r'.level name = r.level name)
    (name : String) : r'.effectiveLevel name = r.effectiveLevel name := by
  simp only [effectiveLevel, h]

/-- What is said depends on levels and filters only. -/
theorem say_congr {r r' : Registry} (hlevel : ∀ name, r'.level name = r.level name)
    (hfilters : r'.filters = r.filters) (record : Record) (values : List Value) :
    r'.say record values = r.say record values := by
  rw [say, say, isEnabled, isEnabled, effectiveLevel_congr hlevel, filtersOf, filtersOf, hfilters]

end Registry

/-! ### Blocks -/

/-- What a block changes while it lasts: it keeps records of loggers back, gives them a level, or
hides their details and ordinary events. -/
inductive Block where
  | suppress (names : List String) (levels : List Int) (patterns : List String)
  | level (names : List String) (value : Value)
  | quiet (names : List String)

namespace Block

/-- The loggers that a block gives a level to. -/
def leveled : Block → List String
  | .suppress _ _ _ => []
  | .level names _ => names
  | .quiet names => names

/-- **Enters a block.** -/
def enter (r : Registry) : Block → Except Fault (Scope × Registry)
  | .suppress names levels patterns => (Scope.suppress r names levels patterns).map Prod.snd
  | .level names value => Scope.changeLevelTo r names value
  | .quiet names => .ok (Scope.quiet r names)

end Block

/-- **What may have changed:** the levels of some loggers, and how many filters were ever made. -/
structure Kept (names : List String) (r r' : Registry) : Prop where
  level : ∀ name, knownName name ∉ names.map knownName → r'.level name = r.level name
  filters : r'.filters = r.filters
  made : r.made ≤ r'.made

namespace Kept

variable {names : List String} {r r' r'' : Registry}

theorem refl (names : List String) (r : Registry) : Kept names r r :=
  ⟨fun _ _ => rfl, rfl, Nat.le_refl _⟩

theorem trans (h : Kept names r r') (h' : Kept names r' r'') : Kept names r r'' where
  level name hname := (h'.level name hname).trans (h.level name hname)
  filters := h'.filters.trans h.filters
  made := Nat.le_trans h.made h'.made

/-- A level of one of the loggers may be set. -/
theorem setLevel {name : String} (hname : knownName name ∈ names.map knownName) (r : Registry)
    (level : Int) : Kept names r (r.setLevel name level) where
  level other hother := by
    rw [Registry.level_setLevel, if_neg fun h => hother (by rw [h]; exact hname)]
  filters := rfl
  made := Nat.le_refl _

end Kept

namespace Scope

variable {names : List String} {r r' r'' : Registry}

theorem suppress_kept {f : Filter} {suppressed : List String}
    (h : Kept names (r.addFilter suppressed f) r') :
    Kept names r (Scope.leave r' (.filter r.made)) where
  level name hname := h.level name hname
  filters := by
    rw [leave, Registry.removeFilter]
    simp only []
    rw [h.filters, Registry.filter_addFilter]
  made := Nat.le_trans (Nat.le_succ r.made) h.made

theorem changeLevel_kept (leveled : List String) (level : Int)
    (h : Kept (leveled ++ names) (changeLevel r leveled level).2 r') :
    Kept names r (Scope.leave r' (changeLevel r leveled level).1) where
  level name hname := by
    -- The levels that are given back are those of before, under whatever names.
    refine Registry.level_setLevels (fun e he hknown => ?_) ?_
    · obtain ⟨n, -, rfl⟩ := List.mem_map.mp he
      exact r.level_congr hknown
    · by_cases hgiven : knownName name ∈ leveled.map knownName
      · obtain ⟨n, hn, hknown⟩ := List.mem_map.mp hgiven
        exact .inr ⟨(n, r.level n), List.mem_map.mpr ⟨n, List.mem_eraseDups.mpr hn, rfl⟩, hknown⟩
      · refine .inl ((h.level name ?_).trans ?_)
        · rw [List.map_append, List.mem_append]
          exact not_or.mpr ⟨hgiven, hname⟩
        · refine Registry.level_setLevels (fun e he hknown => ?_) (.inl rfl)
          obtain ⟨n, hn, rfl⟩ := List.mem_map.mp he
          exact absurd (List.mem_map.mpr ⟨n, hn, hknown⟩) hgiven
  filters := by
    refine (Registry.setLevels_filters r' _).trans (h.filters.trans ?_)
    exact Registry.setLevels_filters r _
  made := by
    have hmade := h.made
    rw [changeLevel, Registry.setLevels_made] at hmade
    exact Nat.le_trans hmade (Nat.le_of_eq (Registry.setLevels_made r' _).symm)

/-- **Leaving a block** gives back what entering it changed, if what was done in it kept to the
loggers that it gives a level to, and to some more. -/
theorem leave_kept {b : Block} {scope : Scope} (henter : b.enter r = .ok (scope, r'))
    (h : Kept (b.leveled ++ names) r' r'') : Kept names r (Scope.leave r'' scope) := by
  cases b with
  | suppress suppressed levels patterns =>
    rw [Block.enter] at henter
    unfold Scope.suppress at henter
    cases hmake : Filter.make suppressed levels patterns with
    | error e =>
      rw [hmake] at henter
      cases henter
    | ok f =>
      rw [hmake] at henter
      cases henter
      exact suppress_kept h
  | level leveled value =>
    rw [Block.enter] at henter
    unfold Scope.changeLevelTo at henter
    split_ifs at henter with hempty
    · -- Without loggers nothing is looked at, not even the level.
      obtain rfl := List.isEmpty_iff.mp hempty
      cases henter
      exact changeLevel_kept [] 0 h
    · cases hlevel : levelOf value with
      | error e =>
        rw [hlevel] at henter
        cases henter
      | ok level =>
        rw [hlevel] at henter
        cases henter
        exact changeLevel_kept leveled level h
  | quiet leveled =>
    cases henter
    exact changeLevel_kept leveled _ h

end Scope

/-! ### Programs -/

/-- Something that happens while a program runs: a record is said, a fault is raised, or the fault
that was raised is caught. -/
inductive Event where
  | said (record : Record)
  | raised (fault : Fault)
  | caught

/-- **A program** in blocks that give a level to loggers of some names. It can say a record with
values, set the level of a logger to which a block around gives one, raise a fault, go on by the
levels and filters that there are or by the fault of a part, which is caught, and run a part in a
block. -/
inductive Program : List String → Type where
  | done {names : List String} : Program names
  | say {names : List String} (record : Record) (values : List Value) (rest : Program names) :
      Program names
  | setLevel {names : List String} (name : String) (within : knownName name ∈ names.map knownName)
      (level : Value) (rest : Program names) : Program names
  | raise {names : List String} (fault : Fault) : Program names
  | look {names : List String} (next : Registry → Program names) : Program names
  | attempt {names : List String} (body : Program names) (next : Option Fault → Program names) :
      Program names
  | within {names : List String} (block : Block) (body : Program (block.leveled ++ names))
      (rest : Program names) : Program names

/-- What a program comes to: the levels and filters after it, the fault that it ends with, and what
happened, in its order. -/
structure Outcome where
  registry : Registry
  fault : Option Fault
  events : List Event

namespace Outcome

/-- The outcome of a fault that is raised. -/
def ofFault (r : Registry) (e : Fault) : Outcome :=
  ⟨r, some e, [.raised e]⟩

/-- An outcome after something else happened. -/
def after (o : Outcome) (events : List Event) : Outcome :=
  { o with events := events ++ o.events }

end Outcome

/-- **Runs a program.** A block is left whatever its part comes to. -/
def Program.run {names : List String} : Program names → Registry → Outcome
  | .done, r => ⟨r, none, []⟩
  | .say record values rest, r =>
    match r.say record values with
    | .error e => .ofFault r e
    | .ok records => (rest.run r).after (records.map .said)
  | .setLevel name _ level rest, r =>
    match levelOf level with
    | .error e => .ofFault r e
    | .ok n => rest.run (r.setLevel name n)
  | .raise e, r => .ofFault r e
  | .look next, r => (next r).run r
  | .attempt body next, r =>
    let o := body.run r
    ((next o.fault).run o.registry).after
      (o.events ++ o.fault.toList.map fun _ => Event.caught)
  | .within block body rest, r =>
    match block.enter r with
    | .error e => .ofFault r e
    | .ok (scope, r') =>
      let o := body.run r'
      let left := Scope.leave o.registry scope
      match o.fault with
      | some e => ⟨left, some e, o.events⟩
      | none => (rest.run left).after o.events

/-- **A program changes** only the levels that its type lists, by induction on the program. -/
theorem Program.run_kept {names : List String} (p : Program names) (r : Registry) :
    Kept names r (p.run r).registry := by
  induction p generalizing r with
  | done => exact .refl _ r
  | say record values rest ih =>
    rw [run]
    split
    · exact .refl _ r
    · exact ih r
  | setLevel name within level rest ih =>
    rw [run]
    split
    · exact .refl _ r
    · exact (Kept.setLevel within r _).trans (ih _)
  | raise fault => exact .refl _ r
  | look next ih => exact ih r r
  | attempt body next ihbody ihnext => exact (ihbody r).trans (ihnext _ _)
  | within block body rest ihbody ihrest =>
    rw [run]
    split
    · exact .refl _ r
    · rename_i henter
      have hleft := Scope.leave_kept henter (ihbody _)
      dsimp only
      split
      · exact hleft
      · exact hleft.trans (ihrest _)

/-! ### Faults -/

/-- The fault that is on its way after something happened. -/
def Event.next (fault : Option Fault) : Event → Option Fault
  | .said _ => fault
  | .raised e => some e
  | .caught => none

/-- **The fault that was raised last,** if it was not caught. -/
def pending (events : List Event) : Option Fault :=
  events.foldl Event.next none

theorem pending_append {first : List Event} (h : pending first = none) (rest : List Event) :
    pending (first ++ rest) = pending rest := by
  rw [pending, List.foldl_append]
  exact congrArg (rest.foldl Event.next) h

theorem pending_said (records : List Record) : pending (records.map .said) = none := by
  induction records with
  | nil => rfl
  | cons record rest ih => exact ih

theorem pending_caught {events : List Event} {fault : Option Fault} (h : fault = pending events) :
    pending (events ++ fault.toList.map fun _ => Event.caught) = none := by
  cases fault with
  | none => exact (pending_append h.symm _).trans rfl
  | some e =>
    rw [pending, List.foldl_append]
    rfl

/-- **A fault gets out as it was raised,** by induction on the program. -/
theorem Program.run_fault {names : List String} (p : Program names) (r : Registry) :
    (p.run r).fault = pending (p.run r).events := by
  induction p generalizing r with
  | done => rfl
  | say record values rest ih =>
    rw [run]
    split
    · rfl
    · exact (ih r).trans (pending_append (pending_said _) _).symm
  | setLevel name within level rest ih =>
    rw [run]
    split
    · rfl
    · exact ih _
  | raise fault => rfl
  | look next ih => exact ih r r
  | attempt body next ihbody ihnext =>
    exact (ihnext _ _).trans (pending_append (pending_caught (ihbody r)) _).symm
  | within block body rest ihbody ihrest =>
    rw [run]
    split
    · rfl
    · dsimp only
      split
      · rename_i hfault
        exact hfault.symm.trans (ihbody _)
      · rename_i hfault
        exact (ihrest _).trans (pending_append ((ihbody _).symm.trans hfault) _).symm

/-- **A program that stands in no block leaves all as it was:** the level of every logger, the
filters of every logger with their order, and so what is said from then on; and it ends with a fault
exactly if one was raised that was not caught, and then with that one. -/
theorem run_restores (p : Program []) (r : Registry) :
    (∀ name, (p.run r).registry.level name = r.level name) ∧
    (p.run r).registry.filters = r.filters ∧
    (∀ record values, (p.run r).registry.say record values = r.say record values) ∧
    (p.run r).fault = pending (p.run r).events := by
  have hkept := p.run_kept r
  have hlevel : ∀ name, (p.run r).registry.level name = r.level name := fun name =>
    hkept.level name (by simp)
  exact ⟨hlevel, hkept.filters, Registry.say_congr hlevel hkept.filters, p.run_fault r⟩

/-- A block in a block, which cannot be entered because its pattern is none. -/
def brokenPattern : Program [] :=
  .within (.level ["a", "a"] (.int 10))
    (.setLevel "a" (by decide) (.int 5) (.within (.suppress ["a"] [] ["("]) .done .done)) .done

example : (brokenPattern.run {}).fault.map Fault.message =
      some "missing ), unterminated subpattern at position 0" ∧
    (brokenPattern.run {}).registry.level "a" = 0 := by decide +kernel

end ItemCatalog.Log
