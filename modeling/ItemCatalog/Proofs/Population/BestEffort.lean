import ItemCatalog.Proofs.Population.Load
import ItemCatalog.Proofs.Population.Passes
import ItemCatalog.Proofs.Population.Reading

/-! # Best effort: what gets out of the initial load

The initial load records what goes wrong with the text of its source, and warns about it; a fault
that no stage may record gets out. An ordinary fault gets out in three ways (`LetsOut`): the loader
that reads the text is made from the configuration if there is none, and this happens before
anything is recorded; and the console may not take a warning, the one about the source or the one
about the problem of the load.

* `loadInitial_of_failed`: a load that loads nothing has a problem, and its last word is a warning;
* `take_loadInitial`: what a console takes of what a load says;
* `loadSource_result`: what the load of a source comes to;
* `initial_load_escapes_iff`: which ordinary faults get out. -/

namespace ItemCatalog.Population

open Step Catalog

/-! ### Problems -/

/-- The warning that nothing was loaded from an address. -/
def Load.failureNote (uri : String) (e : Fault) : Log.Record :=
  Log.initialization.warning (s!"Error importing catalog from {uri}: " ++ e.message)
    (some (some e))

theorem endNotes_of_failed {r : LoadResult} {e : Fault} (hr : r.succeeded = false)
    (he : r.problem = some e) : Load.endNotes r = [Load.failureNote r.uri e] := by
  rw [succeeded_eq, Bool.or_eq_false_iff, Option.isSome_eq_false_iff,
    Option.isSome_eq_false_iff, Option.isNone_iff_eq_none, Option.isNone_iff_eq_none] at hr
  unfold Load.endNotes
  rw [hr.1, hr.2, he]
  rfl

theorem note_problem (r : LoadResult) (e : Fault) : (r.note e).problem.isSome = true := by
  unfold LoadResult.note
  cases r.problem <;> rfl

section Attempts

variable {l : Load} (text : String) (w : Wording)

/-- A structured text that does not load leaves a problem. -/
theorem tryStructured_problem : (l.tryStructured w text).result.items.isSome = true ∨
    (l.tryStructured w text).result.problem.isSome = true := by
  unfold Load.tryStructured
  rcases Catalog.empty.addItems text false (some l.result.uri) w with ⟨e | items, c⟩
  · exact Or.inr (note_problem l.result e)
  · exact Or.inl rfl

/-- A legacy document that does not load leaves a problem. -/
theorem tryLegacy_problem : (l.tryLegacy w text).result.document.isSome = true ∨
    (l.tryLegacy w text).result.problem.isSome = true := by
  unfold Load.tryLegacy
  rcases Document.legacyDocument text (some l.result.uri) w with ⟨e | d, log⟩
  · exact Or.inr (note_problem l.result e)
  · exact Or.inl rfl

/-- Every mode allows one form of text. -/
theorem allowsXml_of_not_yaml {mode : PopulateMode} (hy : ¬ mode.allowsYaml = true) :
    mode.allowsXml = true := by
  cases mode with
  | yaml => exact absurd rfl hy
  | xml => rfl
  | autodetect => exact absurd rfl hy

/-- A load that fails tried some form of text, so it has a problem. -/
theorem attempts_problem (h : (l.attempts w text).result.succeeded = false) :
    (l.attempts w text).result.problem.isSome = true := by
  unfold Load.attempts at h ⊢
  rw [succeeded_eq, Bool.or_eq_false_iff] at h
  by_cases hy : l.result.mode.allowsYaml = true
  · simp only [hy, if_true] at h ⊢
    split_ifs at h ⊢
    · exact (tryLegacy_problem text w).resolve_left (by rw [h.2]; decide)
    · exact (tryStructured_problem text w).resolve_left (by rw [h.1]; decide)
  · have hx := allowsXml_of_not_yaml hy
    simp only [if_neg hy, hx, Bool.and_true] at h ⊢
    split_ifs at h ⊢ with htried
    · exact (tryLegacy_problem text w).resolve_left (by rw [h.2]; decide)
    · rw [Option.isSome_eq_false_iff] at h
      exact absurd h.1 htried

end Attempts

/-! ### One load -/

section Whole

variable {c : Catalog} {uri : String} {mode : PopulateMode} {r : LoadResult} {w : Wording}

/-- An ordinary fault in the place of a text is the problem of the load, with a warning. -/
theorem loadInitial_of_ordinary_fault (c : Catalog) (uri : String) (mode : PopulateMode) {e : Fault}
    (he : e.isFatal = false) (w : Wording) : loadInitial c uri mode (.error e) w =
      (.ok { uri, mode, problem := some e }, c, [Load.failureNote uri e]) := by
  unfold loadInitial
  simp only [he]
  rfl

/-- **A load that loads nothing** has a problem, which is why there was no text if there was none,
and the warning about it is the last that is said. -/
theorem loadInitial_of_failed {content : Except Fault String}
    (h : (loadInitial c uri mode content w).1 = .ok r) (hr : r.succeeded = false) :
    ∃ e log, r.problem = some e ∧ (∀ e', content = .error e' → e' = e) ∧
      (loadInitial c uri mode content w).2.2 = log ++ [Load.failureNote uri e] := by
  cases content with
  | error e =>
    have he : e.isFatal = false := by
      obtain ⟨log, hload⟩ := loadInitial_of_failed_fetch c uri mode e w
      rw [hload] at h
      by_contra he
      rw [Bool.not_eq_false] at he
      rw [if_pos he] at h
      cases h
    rw [loadInitial_of_ordinary_fault c uri mode he w] at h ⊢
    obtain rfl := Except.ok.inj h
    exact ⟨e, [], rfl, fun e' he' => (Except.error.inj he').symm, rfl⟩
  | ok text =>
    let start : Load := { result := { uri, mode }, catalog := c }
    have hload : loadInitial c uri mode (.ok text) w = (.ok (start.attempts w text).result,
      (start.attempts w text).catalog, (start.attempts w text).finish.log) := rfl
    have hholds := attempts_holds (w := w) text (show start.Holds uri mode none none c from
      ⟨rfl, rfl, rfl, rfl, rfl⟩)
    rw [hload] at h ⊢
    obtain rfl := Except.ok.inj h
    obtain ⟨e, he⟩ := Option.isSome_iff_exists.mp (attempts_problem text w hr)
    refine ⟨e, (start.attempts w text).log, he, nofun, ?_⟩
    simp only [Load.finish]
    rw [endNotes_of_failed hr he, hholds.uri_eq]

/-- A load of what a source holds ends with a result, unless no stage may record why it holds
nothing. -/
theorem loadInitial_result (c : Catalog) (uri : String) (mode : PopulateMode)
    (content : Except Fault String) (w : Wording) :
    (∃ r, (loadInitial c uri mode content w).1 = .ok r) ∨
      ∃ e, content = .error e ∧ e.isFatal = true ∧
        (loadInitial c uri mode content w).1 = .error e := by
  cases content with
  | ok text =>
    obtain ⟨r, log, hload, -, -⟩ := loadInitial_of_text c uri mode text w
    exact Or.inl ⟨r, by rw [hload]⟩
  | error e =>
    obtain ⟨log, hload⟩ := loadInitial_of_failed_fetch c uri mode e w
    rw [hload]
    by_cases he : e.isFatal = true
    · exact Or.inr ⟨e, rfl, he, by rw [if_pos he]⟩
    · exact Or.inl ⟨_, by rw [if_neg he]⟩

/-- What a load gives does not depend on what the catalog held. -/
theorem loadInitial_congr (c c' : Catalog) (uri : String) (mode : PopulateMode)
    (content : Except Fault String) (w : Wording) :
    (loadInitial c uri mode content w).1 = (loadInitial c' uri mode content w).1 := by
  cases content with
  | error e =>
    unfold loadInitial
    dsimp only
    split_ifs <;> rfl
  | ok text =>
    have hyaml : ∀ c : Catalog,
        Load.tryStructured w { result := { uri, mode }, catalog := c } text =
        Load.tryStructured w { result := { uri, mode }, catalog := c' } text := fun _ => rfl
    have hxml : ∀ c : Catalog,
        (Load.tryLegacy w { result := { uri, mode }, catalog := c } text).result =
          (Load.tryLegacy w { result := { uri, mode }, catalog := c' } text).result := by
      intro c
      unfold Load.tryLegacy
      dsimp only
      split <;> rfl
    unfold loadInitial Load.attempts
    dsimp only [Load.finish]
    by_cases hy : mode.allowsYaml = true
    · simp only [hy, if_true, hyaml c]
    · simp only [hy]
      by_cases hx : mode.allowsXml = true
      · exact congrArg Except.ok (by simpa [hx] using hxml c)
      · simp [hx]

theorem loadInitial_uri (h : (loadInitial c uri mode content w).1 = .ok r) : r.uri = uri := by
  cases content with
  | ok text =>
    have hholds := attempts_holds (w := w) text (show
      ({ result := { uri, mode }, catalog := c } : Load).Holds uri mode none none c from
      ⟨rfl, rfl, rfl, rfl, rfl⟩)
    obtain rfl := Except.ok.inj h
    exact hholds.uri_eq
  | error e =>
    obtain ⟨log, hload⟩ := loadInitial_of_failed_fetch c uri mode e w
    rw [hload] at h
    dsimp only at h
    split_ifs at h
    cases h
    rfl

/-! ### What a load says -/

/-- A load that succeeds ends with a detail. -/
theorem endNotes_details (h : r.succeeded = true) : AllDetails (Load.endNotes r) := by
  rw [succeeded_eq, Bool.or_eq_true] at h
  unfold Load.endNotes
  split
  · exact .single _ _
  · exact .single _ _
  · next hitems hdocument _ =>
    rw [hitems, hdocument] at h
    cases h <;> contradiction
  · exact .nil

/-- **What a load says** are details, and its end. -/
theorem loadInitial_notes (h : (loadInitial c uri mode content w).1 = .ok r) :
    ∃ notes, AllDetails notes ∧
      (loadInitial c uri mode content w).2.2 = notes ++ Load.endNotes r := by
  cases content with
  | ok text =>
    obtain rfl := Except.ok.inj h
    exact ⟨_, attempts_details .nil text w, rfl⟩
  | error e =>
    unfold loadInitial at h ⊢
    dsimp only at h ⊢
    split_ifs at h ⊢
    obtain rfl := Except.ok.inj h
    exact ⟨[], .nil, rfl⟩

/-- The fault of a console that does not take the warning of a load. -/
def LoadResult.refusal? (r : LoadResult) (console : Log.Console) : Option Fault :=
  if r.succeeded then none
  else r.problem.bind fun e => console.refusal? (Load.failureNote r.uri e)

/-- The result of a load, if the console takes its warning. -/
def LoadResult.told (r : LoadResult) (console : Log.Console) : Except Fault LoadResult :=
  (r.refusal? console).elim (.ok r) .error

theorem told_eq_ok_iff {console : Log.Console} {r' : LoadResult} :
    r.told console = .ok r' ↔ r' = r ∧ r.refusal? console = none := by
  rw [LoadResult.told]
  cases r.refusal? console <;> simp [eq_comm]

theorem told_eq_error_iff {console : Log.Console} {f : Fault} :
    r.told console = .error f ↔ r.refusal? console = some f := by
  rw [LoadResult.told]
  cases r.refusal? console <;> simp

/-- A warning is not taken exactly if there is one, and the console refuses it. -/
theorem refusal_eq_some_iff {console : Log.Console} {f : Fault} : r.refusal? console = some f ↔
    r.succeeded = false ∧ ∃ e, r.problem = some e ∧
      console.refusal? (Load.failureNote r.uri e) = some f := by
  unfold LoadResult.refusal?
  cases r.succeeded <;> simp [Option.bind_eq_some_iff]

theorem AllDetails.takes {log : List Log.Record} (h : AllDetails log) (console : Log.Console) :
    console.Takes log :=
  Log.Console.takes_details fun r hr => by rw [h r hr]; decide

/-- **What a console takes** of what a load says: all of it, or the details, if it does not take the
warning. -/
theorem take_loadInitial (h : (loadInitial c uri mode content w).1 = .ok r)
    (console : Log.Console) :
    ∃ notes, AllDetails notes ∧ console.take (loadInitial c uri mode content w).2.2 =
      (notes ++ if (r.refusal? console).isSome then [] else Load.endNotes r,
        r.refusal? console) := by
  obtain ⟨notes, hnotes, hlog⟩ := loadInitial_notes h
  refine ⟨notes, hnotes, ?_⟩
  rw [hlog]
  cases hr : r.succeeded with
  | true =>
    have htakes := (hnotes.append (endNotes_details hr)).takes console
    rw [Log.Console.take_of_takes htakes, LoadResult.refusal?, if_pos hr]
    rfl
  | false =>
    obtain ⟨e, -, hproblem, -⟩ := loadInitial_of_failed h hr
    have hrefusal : r.refusal? console = console.refusal? (Load.failureNote r.uri e) := by
      rw [LoadResult.refusal?, hr, hproblem]
      rfl
    rw [endNotes_of_failed hr hproblem, hrefusal]
    cases hc : console.refusal? (Load.failureNote r.uri e) with
    | none =>
      refine Log.Console.take_of_takes (Log.Console.takes_append_iff.mpr ⟨hnotes.takes console, ?_⟩)
      exact Log.Console.takes_cons_iff.mpr ⟨hc, .nil⟩
    | some f =>
      rw [Log.Console.take_of_refused (hnotes.takes console) hc]
      exact congrArg (·, some f) (List.append_nil notes).symm

theorem map_eq_error_iff {α β : Type} {r : Except Fault α} {f : α → β} {e : Fault} :
    r.map f = .error e ↔ r = .error e := by
  cases r with
  | error e' => exact ⟨fun h => congrArg Except.error (Except.error.inj h), fun h => by rw [h]; rfl⟩
  | ok a => exact iff_of_false nofun nofun

end Whole

/-! ### Loaders that cannot be made -/

theorem mapError_eq_error {α ε ε' : Type} {r : Except ε α} {f : ε → ε'} {e' : ε'}
    (h : r.mapError f = .error e') : ∃ e, e' = f e := by
  cases r with
  | error e => exact ⟨e, (Except.error.inj h).symm⟩
  | ok a => cases h

/-- A value that is no number is an ordinary fault. -/
theorem floatOf_fault {v : Value} {e : Fault} (h : Resource.Loader.floatOf v = .error e) :
    e.isFatal = false := by
  unfold Resource.Loader.floatOf at h
  split at h
  case h_1 => cases h
  case h_2 | h_3 | h_4 | h_5 =>
    obtain ⟨n, rfl⟩ := mapError_eq_error h
    rfl
  all_goals
    obtain rfl := Except.error.inj h
    rfl

/-- A loader that cannot be made is an ordinary fault. -/
theorem loaderOr_fault {s : State} {e : Fault} (h : s.loaderOr = .error e) :
    e.isFatal = false := by
  unfold State.loaderOr Resource.Loader.ofConfig at h
  cases hl : s.loader with
  | some l =>
    rw [hl] at h
    cases h
  | none =>
    rw [hl] at h
    cases hx : Resource.Loader.floatOf
        (s.context.config.get Resource.Loader.timeoutSetting Resource.Loader.defaultTimeout) with
    | ok x =>
      rw [hx] at h
      cases h
    | error e' =>
      rw [hx] at h
      obtain rfl := Except.error.inj h
      exact floatOf_fault hx

/-! ### The stage -/

/-- What the text of a source gives, if the load of it is told. -/
def State.loadResult (s : State) (source : Source) (l : Resource.Loader) :
    Except Fault LoadResult :=
  (loadInitial .empty source.uri source.mode (s.read l source.uri) s.around.wording).1

/-- **What lets an ordinary fault out** of the load of a source: the console does not take what is
said about the source, no loader can be made, or the console does not take the warning that the load
loaded nothing. -/
inductive LetsOut (s : State) (source : Source) : Fault → Prop
  | notes {f : Fault} (h : s.reported (sourceNotes source) = .error f) : LetsOut s source f
  | loader {f : Fault} (hnotes : s.around.console.Takes (sourceNotes source))
      (h : s.loaderOr = .error f) : LetsOut s source f
  | warning {l : Resource.Loader} {r : LoadResult} {e f : Fault}
      (hnotes : s.around.console.Takes (sourceNotes source)) (hl : s.loaderOr = .ok l)
      (hr : s.loadResult source l = .ok r) (hfailed : r.succeeded = false)
      (hproblem : r.problem = some e)
      (h : s.around.console.refusal? (Load.failureNote source.uri e) = some f) : LetsOut s source f

section Stage

variable {s : State} {source : Source} {l : Resource.Loader}

theorem loadedAt_result (s : State) (uri : String) (mode : PopulateMode) (l : Resource.Loader)
    (c : Catalog) : (s.loadedAt uri mode l c).1 =
      (loadInitial c uri mode (s.read l uri) s.around.wording).1.bind fun r =>
        r.told s.around.console := by
  unfold State.loadedAt
  dsimp only
  cases hr : (loadInitial c uri mode (s.read l uri) s.around.wording).1 with
  | ok r =>
    obtain ⟨notes, -, htake⟩ := take_loadInitial hr s.around.console
    rw [State.reported, Log.Console.said, htake, Except.bind, LoadResult.told]
    cases r.refusal? s.around.console <;> rfl
  | error e =>
    -- A fault that no stage may record is not warned of.
    have hlog : (loadInitial c uri mode (s.read l uri) s.around.wording).2.2 = [] := by
      unfold loadInitial at hr ⊢
      split at hr
      · cases hr
      · split_ifs at hr
        rw [if_pos ‹_›]
    rw [hlog]
    rfl

/-- **What the load of a source comes to**, whatever the catalog held. -/
theorem loadSource_result (s : State) (source : Source) (c : Catalog) :
    (s.loadedFrom source c).1 = ((s.reported (sourceNotes source)).bind fun _ => s.loaderOr).bind
      fun l => (s.loadResult source l).bind fun r => r.told s.around.console := by
  unfold State.loadedFrom
  cases (s.reported (sourceNotes source)).bind fun _ => s.loaderOr with
  | error e => rfl
  | ok l => exact (loadedAt_result s _ _ l c).trans (by rw [loadInitial_congr c .empty]; rfl)

/-- A source about which the console takes everything is loaded by the loader, if there is one. -/
theorem loadSource_result_of_loader (htakes : s.around.console.Takes (sourceNotes source))
    (hl : s.loaderOr = .ok l) (c : Catalog) : (s.loadedFrom source c).1 =
      (s.loadResult source l).bind fun r => r.told s.around.console := by
  rw [loadSource_result, State.reported_of_takes htakes, hl]
  rfl

/-- Only what no stage may record comes in the place of a result. -/
theorem isFatal_of_loadResult {e : Fault} (h : s.loadResult source l = .error e) :
    s.read l source.uri = .error e ∧ e.isFatal = true := by
  rcases loadInitial_result .empty source.uri source.mode (s.read l source.uri)
      s.around.wording with
    ⟨r, hok⟩ | ⟨e', hread, hfatal, herror⟩
  · cases h.symm.trans hok
  · cases h.symm.trans herror
    exact ⟨hread, hfatal⟩

theorem letsOut_of_result {f : Fault} {c : Catalog} (h : (s.loadedFrom source c).1 = .error f)
    (hf : f.isFatal = false) : LetsOut s source f := by
  cases hnotes : s.reported (sourceNotes source) with
  | error e =>
    rw [loadSource_result, hnotes] at h
    cases h
    exact .notes hnotes
  | ok _ =>
    have htakes := State.reported_eq_ok_iff.mp hnotes
    cases hl : s.loaderOr with
    | error e =>
      rw [loadSource_result, hnotes, hl] at h
      cases h
      exact .loader htakes hl
    | ok l =>
      rw [loadSource_result_of_loader htakes hl] at h
      cases hr : s.loadResult source l with
      | error e =>
        rw [hr] at h
        cases h
        rw [(isFatal_of_loadResult hr).2] at hf
        cases hf
      | ok r =>
        rw [hr] at h
        obtain ⟨hfailed, e, hproblem, he⟩ := refusal_eq_some_iff.mp (told_eq_error_iff.mp h)
        rw [loadInitial_uri hr] at he
        exact .warning htakes hl hr hfailed hproblem he

theorem result_of_letsOut {f : Fault} (h : LetsOut s source f) (c : Catalog) :
    (s.loadedFrom source c).1 = .error f ∧ f.isFatal = false := by
  cases h with
  | notes h => exact ⟨by rw [loadSource_result, h]; rfl, State.isFatal_of_reported h⟩
  | loader hnotes h =>
    exact ⟨by rw [loadSource_result, State.reported_of_takes hnotes, h]; rfl, loaderOr_fault h⟩
  | warning hnotes hl hr hfailed hproblem h =>
    refine ⟨?_, s.around.console.refusal?_ordinary _ _ h⟩
    rw [loadSource_result_of_loader hnotes hl, hr]
    rw [← loadInitial_uri hr] at h
    exact told_eq_error_iff.mpr (refusal_eq_some_iff.mpr ⟨hfailed, _, hproblem, h⟩)

/-- **What gets out of the initial load** as an ordinary fault. -/
theorem initialLoad_ordinary_fault_iff {found : Option Source} (hsource : s.source = .ok found)
    (c : Catalog) (f : Fault) : ((s.initialLoad c).1 = .error f ∧ f.isFatal = false) ↔
      ∃ source, found = some source ∧ LetsOut s source f := by
  rw [State.initialLoad, hsource]
  cases found with
  | none =>
    constructor
    · rintro ⟨h, -⟩
      cases h
    · rintro ⟨source, h, -⟩
      cases h
  | some source =>
    dsimp only
    rw [map_eq_error_iff]
    constructor
    · rintro ⟨h, hf⟩
      exact ⟨source, rfl, letsOut_of_result h hf⟩
    · rintro ⟨source', hfound, h⟩
      cases hfound
      exact result_of_letsOut h c

/-- With a loader there is a result, unless a fault that no stage may record came in the place of
the text, or an ordinary one gets out. -/
theorem initialLoad_of_loader (hsource : s.source = .ok (some source)) (hl : s.loaderOr = .ok l)
    (hkeeps : ∀ f, ¬ LetsOut s source f) (c : Catalog) :
    (∃ r, s.loadResult source l = .ok r ∧ (s.initialLoad c).1 = .ok (some r) ∧
      r.refusal? s.around.console = none) ∨
      ∃ e, s.read l source.uri = .error e ∧ e.isFatal = true ∧ (s.initialLoad c).1 = .error e := by
  have htakes : s.around.console.Takes (sourceNotes source) := by
    cases hnotes : s.reported (sourceNotes source) with
    | error f => exact absurd (.notes hnotes) (hkeeps f)
    | ok _ => exact State.reported_eq_ok_iff.mp hnotes
  have hload : (s.initialLoad c).1 = (s.loadedFrom source c).1.map some := by
    rw [State.initialLoad, hsource]
  rw [hload]
  cases hr : s.loadResult source l with
  | error e =>
    obtain ⟨hread, he⟩ := isFatal_of_loadResult hr
    exact Or.inr ⟨e, hread, he, by rw [loadSource_result_of_loader htakes hl, hr]; rfl⟩
  | ok r =>
    cases hresult : (s.loadedFrom source c).1 with
    | error f =>
      have hf : f.isFatal = false := by
        rw [loadSource_result_of_loader htakes hl, hr] at hresult
        obtain ⟨-, e, -, he⟩ := refusal_eq_some_iff.mp (told_eq_error_iff.mp hresult)
        exact s.around.console.refusal?_ordinary _ _ he
      exact absurd (letsOut_of_result hresult hf) (hkeeps f)
    | ok r' =>
      rw [loadSource_result_of_loader htakes hl, hr] at hresult
      obtain ⟨rfl, hrefusal⟩ := told_eq_ok_iff.mp hresult
      exact Or.inl ⟨r', rfl, rfl, hrefusal⟩

/-- What the initial load of a source says, up to the load of its text. -/
def State.notesBefore (s : State) (source : Source) (l : Resource.Loader) : List Log.Record :=
  s.search.log ++ sourceNotes source ++ [Load.startNote source.uri] ++
    (l.fetch s.around source.uri).log

/-- The record of the initial load of a source about which the console takes everything. -/
theorem populateInitial_log (hsource : s.source = .ok (some source)) (hl : s.loaderOr = .ok l)
    (htakes : s.around.console.Takes (sourceNotes source)) (name : CatalogName) :
    (populateInitial name s).2.trace.log = s.trace.log ++ s.notesBefore source l ++
      (s.around.console.take (loadInitial (s.catalog name) source.uri source.mode
        (s.read l source.uri) s.around.wording).2.2).1 := by
  have hsearched : s.searched.loaderOr = .ok l := hl
  have hnotes : s.searched.reported (sourceNotes source) = .ok () := State.reported_of_takes htakes
  have hlog : s.searched.trace.log = s.trace.log ++ s.search.log := rfl
  rw [populateInitial_run hsource, loadSource_run, hsearched, hnotes]
  show (s.searched.readSource l source).trace.log ++ _ = _
  rw [State.readSource_log, hlog, State.notesBefore]
  simp only [List.append_assoc]
  rfl

/-- **A source that loads nothing** leaves its problem in the result, and its warning at the end of
the record. -/
theorem populateInitial_of_failed (hsource : s.source = .ok (some source))
    (hl : s.loaderOr = .ok l) (htakes : s.around.console.Takes (sourceNotes source))
    {name : CatalogName} {r : LoadResult} (h : (populateInitial name s).1 = .ok (some r))
    (hr : r.succeeded = false) :
    ∃ e log, r.problem = some e ∧ (∀ e', s.read l source.uri = .error e' → e' = e) ∧
      (populateInitial name s).2.trace.log =
        s.trace.log ++ log ++ [Load.failureNote source.uri e] := by
  have hresult : ((s.loadResult source l).bind fun r => r.told s.around.console) = .ok r := by
    have hstage := (populateInitial_comes name s).result_eq
    rw [h, State.initialLoad, hsource] at hstage
    dsimp only at hstage
    rw [← loadSource_result_of_loader htakes hl (s.catalog name)]
    cases hload : (s.loadedFrom source (s.catalog name)).1 with
    | error e =>
      rw [hload] at hstage
      cases hstage
    | ok r' =>
      rw [hload] at hstage
      rw [Option.some.inj (Except.ok.inj hstage)]
  cases hload : s.loadResult source l with
  | error e =>
    rw [hload] at hresult
    cases hresult
  | ok r' =>
    rw [hload] at hresult
    obtain ⟨rfl, hrefusal⟩ := told_eq_ok_iff.mp hresult
    have hload : (loadInitial (s.catalog name) source.uri source.mode (s.read l source.uri)
        s.around.wording).1 = .ok r := (loadInitial_congr _ _ _ _ _ _).trans hload
    obtain ⟨e, -, hproblem, hread, -⟩ := loadInitial_of_failed hload hr
    obtain ⟨notes, -, htake⟩ := take_loadInitial hload s.around.console
    refine ⟨e, s.notesBefore source l ++ notes, hproblem, hread, ?_⟩
    rw [populateInitial_log hsource hl htakes, htake, hrefusal, endNotes_of_failed hr hproblem,
      loadInitial_uri hload]
    simp only [List.append_assoc]
    rfl

end Stage

/-! ### A pass that only loads -/

/-- Nothing of a pass but its initial load can fail: there is no load mode, no additions, and no
callback. -/
structure OnlyLoads (s : State) : Prop where
  mode : s.context.config.get LoadMode.setting = .null
  additions : s.additionsUri? = none
  callbacks : s.callbacks = []

section Pass

variable {s : State} (inner : Inner)

theorem OnlyLoads.of_same {t : State} (h : OnlyLoads s) (hst : SameInputs s t) : OnlyLoads t where
  mode := hst.config ▸ h.mode
  additions := by
    rw [State.additionsUri?, hst.settings]
    exact h.additions
  callbacks := hst.callbacks.trans h.callbacks

theorem tellAll_of_none (h : s.callbacks = []) : tellAll inner s = (.ok (), s) := by
  unfold tellAll
  simp only [bind_run, get_run, h]
  rfl

/-- The stages end as the initial load ends. -/
theorem afterMode_of_onlyLoads (h : OnlyLoads s) (name : CatalogName) :
    (afterMode inner name true none s).1 = (s.initialLoad (s.catalog name)).1.map fun _ => () := by
  have hinitial := discard_comes (populateInitial_comes name s)
  have hrun : afterMode inner name true none s = (discard (populateInitial name) >>= fun _ => do
      discard (populateAdditions name)
      tellAll inner) s := rfl
  rw [hrun]
  cases hload : (s.initialLoad (s.catalog name)).1 with
  | error e =>
    rw [hload] at hinitial
    rw [bind_of_error hinitial.result_eq]
    rfl
  | ok r =>
    rw [hload] at hinitial
    obtain ⟨t, hrest, hst, -⟩ := hinitial.bind_run fun _ => (do
      discard (populateAdditions name)
      tellAll inner)
    rw [hrest]
    have ht := h.of_same hst
    have hadditions := discard_comes (populateAdditions_comes name t)
    rw [State.additionsLoad, ht.additions] at hadditions
    obtain ⟨u, htell, htu, -⟩ := hadditions.bind_run fun _ => tellAll inner
    rw [htell, tellAll_of_none inner (ht.of_same htu).callbacks]
    rfl

/-- **A pass that only loads** ends as its initial load ends, whatever its catalog held or is reset
to. -/
theorem populateCatalog_of_onlyLoads (h : OnlyLoads s) {items : Option Handover}
    (hitems : items.bind Handover.fault = none) :
    ∃ c, (populateCatalog inner true items s).1 =
      (s.initialLoad c).1.map fun _ => s.targetName := by
  have hst := (target_comes s).inputs
  obtain ⟨u, hmode, htu, -⟩ := (applyLoadMode_comes (h.of_same hst).mode).bind_run fun _ =>
    afterMode inner s.targetName true items
  have hpass : (populateCatalog inner true items s).1 =
      (afterMode inner s.targetName true items u).1.map fun _ => s.targetName := by
    rw [pass_run, stages_eq, hmode]
  have hsu := hst.trans htu
  rw [hpass]
  cases items with
  | none =>
    refine ⟨u.catalog s.targetName, ?_⟩
    rw [afterMode_of_onlyLoads inner (h.of_same hsu), hsu.initialLoad]
    cases (s.initialLoad (u.catalog s.targetName)).1 <;> rfl
  | some given =>
    obtain ⟨given, fault⟩ := given
    obtain rfl : fault = none := hitems
    obtain ⟨v, hreset, huv, -⟩ := (resetTo_of_items s.targetName given u).bind_run fun _ =>
      afterMode inner s.targetName true none
    have hsv := hsu.trans huv
    refine ⟨v.catalog s.targetName, ?_⟩
    rw [afterMode_some, hreset, afterMode_of_onlyLoads inner (h.of_same hsv), hsv.initialLoad]
    cases (s.initialLoad (v.catalog s.targetName)).1 <;> rfl

theorem populateCatalog_ordinary_fault_iff {found : Option Source} (hsource : s.source = .ok found)
    (h : OnlyLoads s) {items : Option Handover} (hitems : items.bind Handover.fault = none)
    (f : Fault) : ((populateCatalog inner true items s).1 = .error f ∧ f.isFatal = false) ↔
      ∃ source, found = some source ∧ LetsOut s source f := by
  obtain ⟨c, hc⟩ := populateCatalog_of_onlyLoads inner h hitems
  rw [hc, ← initialLoad_ordinary_fault_iff hsource c, map_eq_error_iff]

end Pass

/-- **The initial load is best-effort, but for its loader and its warnings.** An ordinary fault gets
out of it, and of a pass that only loads, exactly if there is a source and the console does not take
what is said about it, no loader can be made from the configuration, or the console does not take
the warning that nothing was loaded. If nothing lets one out, then, whatever comes in the place of
the text that a stage may record, there is a result and the pass ends normally; if nothing was
loaded, the result holds the problem, and the last that is said is the warning about it. -/
theorem initial_load_escapes_iff {s : State} {found : Option Source}
    (hsource : s.source = .ok found) :
    (∀ name f, ((populateInitial name s).1 = .error f ∧ f.isFatal = false) ↔
      ∃ source, found = some source ∧ LetsOut s source f) ∧
    (∀ inner items, OnlyLoads s → items.bind Handover.fault = none → ∀ f,
      (((populateCatalog inner true items s).1 = .error f ∧ f.isFatal = false) ↔
        ∃ source, found = some source ∧ LetsOut s source f)) ∧
    (∀ source l, found = some source → s.loaderOr = .ok l → (∀ f, ¬ LetsOut s source f) →
      (∀ e, s.read l source.uri = .error e → e.isFatal = false) →
      (∀ name, ∃ r, (populateInitial name s).1 = .ok (some r) ∧ (r.succeeded = false →
        ∃ e log, r.problem = some e ∧ (∀ e', s.read l source.uri = .error e' → e' = e) ∧
          (populateInitial name s).2.trace.log =
            s.trace.log ++ log ++ [Load.failureNote source.uri e])) ∧
      (∀ inner items, OnlyLoads s → items.bind Handover.fault = none →
        (populateCatalog inner true items s).1 = .ok s.targetName)) := by
  refine ⟨fun name f => ?_, fun inner items h hitems =>
    populateCatalog_ordinary_fault_iff inner hsource h hitems, ?_⟩
  · rw [(populateInitial_comes name s).result_eq]
    exact initialLoad_ordinary_fault_iff hsource _ f
  · rintro source l rfl hl hkeeps hread
    have hresult : ∀ c, ∃ r, (s.initialLoad c).1 = .ok (some r) := by
      intro c
      rcases initialLoad_of_loader hsource hl hkeeps c with ⟨r, -, hr, -⟩ | ⟨e, he, hfatal, -⟩
      · exact ⟨r, hr⟩
      · rw [hread e he] at hfatal
        cases hfatal
    have htakes : s.around.console.Takes (sourceNotes source) := by
      cases hnotes : s.reported (sourceNotes source) with
      | error f => exact absurd (.notes hnotes) (hkeeps f)
      | ok _ => exact State.reported_eq_ok_iff.mp hnotes
    refine ⟨fun name => ?_, fun inner items h hitems => ?_⟩
    · obtain ⟨r, hr⟩ := hresult (s.catalog name)
      rw [← (populateInitial_comes name s).result_eq] at hr
      exact ⟨r, hr, populateInitial_of_failed hsource hl htakes hr⟩
    · obtain ⟨c, hc⟩ := populateCatalog_of_onlyLoads inner h hitems
      obtain ⟨r, hr⟩ := hresult c
      rw [hc, hr]
      rfl

/-- A state whose source is an address, with a setting for how long a server may take. -/
def timedState (timeout : Value) : State where
  context := { config :=
    { settings := [(.text "resources", .map [(.text "http_timeout", timeout)])] } }
  settings := { initialUri := some "classpath://a" }

theorem timedState_source (timeout : Value) : (timedState timeout).source =
    .ok (some ⟨"classpath://a", .autodetect, "initial catalog URI", false⟩) := rfl

theorem timedState_onlyLoads (timeout : Value) : OnlyLoads (timedState timeout) :=
  ⟨rfl, rfl, rfl⟩

/-- Whether there is an ordinary fault in the place of a result. -/
def isOrdinary {α : Type} : Except Fault α → Bool
  | .error e => !e.isFatal
  | .ok _ => false

theorem eq_error_of_isOrdinary {α : Type} {r : Except Fault α} (h : isOrdinary r = true) :
    ∃ e, r = .error e ∧ e.isFatal = false := by
  cases r with
  | error e => exact ⟨e, rfl, (Bool.not_eq_true' e.isFatal).mp h⟩
  | ok a => cases h

/-- With a readable setting there is a loader, and nothing is found at the address. -/
theorem timedState_refused : ∃ l e, (timedState (.text "12")).loaderOr = .ok l ∧
    (timedState (.text "12")).read l "classpath://a" = .error e ∧ e.isFatal = false := by
  have hrefused : isOrdinary ((timedState (.text "12")).loaderOr.bind fun l =>
      (timedState (.text "12")).read l "classpath://a") = true := by decide +kernel
  have hloader : (timedState (.text "12")).loaderOr.toOption.isSome = true := by decide +kernel
  cases hl : (timedState (.text "12")).loaderOr with
  | error e =>
    rw [hl] at hloader
    cases hloader
  | ok l =>
    rw [hl] at hrefused
    obtain ⟨e, hread, he⟩ := eq_error_of_isOrdinary hrefused
    exact ⟨l, e, rfl, hread, he⟩

/-- A console that shows everything as it is takes every warning. -/
theorem not_letsOut_of_verbatim {s : State} {source : Source} {l : Resource.Loader}
    (hconsole : s.around.console = .verbatim) (hl : s.loaderOr = .ok l) (f : Fault) :
    ¬ LetsOut s source f := by
  have htakes : s.around.console.Takes (sourceNotes source) := fun r _ => by
    rw [hconsole]
    rfl
  rintro (h | ⟨-, h⟩ | ⟨-, -, -, -, -, h⟩)
  · cases (State.reported_of_takes htakes).symm.trans h
  · cases hl.symm.trans h
  · rw [hconsole] at h
    cases h

/-- With a readable setting, an address that names nothing is recorded and warned about. -/
theorem initial_load_of_missing_package : ∃ r e log,
    (populateInitial 0 (timedState (.text "12"))).1 = .ok (some r) ∧ r.problem = some e ∧
    (populateInitial 0 (timedState (.text "12"))).2.trace.log =
      log ++ [Load.failureNote "classpath://a" e] ∧
    (populateCatalog (passes 0) true none (timedState (.text "12"))).1 = .ok 0 := by
  obtain ⟨l, e, hl, hread, he⟩ := timedState_refused
  obtain ⟨-, -, hrest⟩ := initial_load_escapes_iff (timedState_source (.text "12"))
  obtain ⟨hstage, hpass⟩ := hrest _ l rfl hl (not_letsOut_of_verbatim rfl hl) fun e' he' => by
    rw [hread] at he'
    rw [← Except.error.inj he']
    exact he
  obtain ⟨r, hr, hfailed⟩ := hstage 0
  have hsucceeded : r.succeeded = false := by
    have hresult := (populateInitial_comes 0 (timedState (.text "12"))).result_eq
    have htold : (timedState (.text "12")).around.console.Takes
        (sourceNotes ⟨"classpath://a", .autodetect, "initial catalog URI", false⟩) := fun _ _ => rfl
    have hload := loadSource_result_of_loader htold hl ((timedState (.text "12")).catalog 0)
    rw [State.loadResult, hread, loadInitial_of_ordinary_fault _ _ _ he _] at hload
    rw [hr, State.initialLoad, timedState_source] at hresult
    dsimp only at hresult
    rw [hload] at hresult
    rw [Option.some.inj (Except.ok.inj hresult)]
    rfl
  obtain ⟨e', log, hproblem, -, hlog⟩ := hfailed hsucceeded
  exact ⟨r, e', _, hr, hproblem, hlog, hpass (passes 0) none (timedState_onlyLoads _) rfl⟩

/-- A setting that is no number ends the load, and the pass, with a fault that is not recorded. -/
theorem initial_load_without_loader :
    (∃ e, (populateInitial 0 (timedState (.text "soon"))).1 = .error e ∧ e.isFatal = false) ∧
    (∃ e, (populateCatalog (passes 0) true none (timedState (.text "soon"))).1 = .error e ∧
      e.isFatal = false) := by
  have hnone : (timedState (.text "soon")).loaderOr.toOption.isNone = true := by decide +kernel
  obtain ⟨f, hl⟩ : ∃ f, (timedState (.text "soon")).loaderOr = .error f := by
    cases hor : (timedState (.text "soon")).loaderOr with
    | error f => exact ⟨f, rfl⟩
    | ok l =>
      rw [hor] at hnone
      cases hnone
  have hletsOut : LetsOut (timedState (.text "soon"))
      ⟨"classpath://a", .autodetect, "initial catalog URI", false⟩ f :=
    .loader (fun _ _ => rfl) hl
  refine ⟨⟨f, ?_⟩, ⟨f, ?_⟩⟩
  · rw [(populateInitial_comes 0 _).result_eq]
    exact (initialLoad_ordinary_fault_iff (timedState_source _) _ f).mpr ⟨_, rfl, hletsOut⟩
  · exact (populateCatalog_ordinary_fault_iff _ (timedState_source _) (timedState_onlyLoads _)
      rfl f).mpr ⟨_, rfl, hletsOut⟩

/-- A state whose source is an address that closes a tag, before a console of marked texts. -/
def taggedState : State where
  settings := { initialUri := some "mem:[/x]" }
  around := { console := .marked }

/-- Nothing is found at the address, and the console does not take the warning about it. -/
theorem initial_load_of_closing_tag :
    ∃ f, (populateInitial 0 taggedState).1 = .error f ∧ f.isFatal = false :=
  eq_error_of_isOrdinary (by decide +kernel)

end ItemCatalog.Population
