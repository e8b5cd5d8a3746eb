import ItemCatalog.Proofs.Population.LocalFiles

/-! # The search for a source: which step ends it

The search goes through its steps in their order: the address of the settings, the address of the
configuration, the structured file, the legacy file, and the providers one after the other. `Ends`
says, for each step alone, with what it ends the search if the search gets there: with a source, or,
for a provider, with a fault that no stage may record. `FirstEnd` is the first step that does.

* `offered_of_decided`, `lt_offered_asked_iff`: providers that decline are passed over;
* `resolve_cases`: the search comes to what its first end says, or to nothing if there is none;
* `resolve_first_match`: what it gives, whom it asks and what it says;
* `resolve_raises_only_fatal_iff`: it raises an ordinary fault exactly if it has to know the base
  directory and cannot find out, or the console does not take a note about a provider. -/

namespace ItemCatalog.Population.Source

open Files

/-! ### Providers -/

/-- **What asking a provider gives the search**: its source, or nothing if it declines; its fault,
if no stage may record it; and the fault of the console, if that does not take the note about an
ordinary one. -/
def decision (console : Log.Console) (p : Provider) : Except Fault (Option Source) :=
  match p.answer with
  | .ok source => .ok source
  | .error e =>
    if e.isFatal then .error e
    else match console.refusal? (failedNote p e) with
      | some refusal => .error refusal
      | none => .ok none

/-- Whether the search goes on behind a provider. -/
def declines (console : Log.Console) (p : Provider) : Bool :=
  match decision console p with
  | .ok none => true
  | _ => false

/-- The notes about the providers that failed. -/
def declinedNotes (providers : List Provider) : List Log.Record :=
  providers.filterMap fun p => match p.answer with
    | .ok _ => none
    | .error e => some (failedNote p e)

section Providers

variable {console : Log.Console} {p : Provider}

/-- A provider declines that offers nothing, and one whose ordinary fault the console takes. -/
theorem decision_eq_none_iff : decision console p = .ok none ↔ p.answer = .ok none ∨
    ∃ e, p.answer = .error e ∧ e.isFatal = false ∧ console.refusal? (failedNote p e) = none := by
  unfold decision
  rcases p.answer with e | _ | source
  · cases he : e.isFatal <;> cases hr : console.refusal? (failedNote p e) <;> simp [he, hr]
  · simp
  · simp

theorem decision_eq_source_iff {source : Source} :
    decision console p = .ok (some source) ↔ p.answer = .ok (some source) := by
  unfold decision
  rcases p.answer with e | _ | source
  · cases he : e.isFatal <;> cases hr : console.refusal? (failedNote p e) <;> simp [he, hr]
  · simp
  · simp

/-- What a provider lets through: its fault if no stage may record it, or that of the console. -/
theorem decision_eq_error_iff {f : Fault} : decision console p = .error f ↔
    (p.answer = .error f ∧ f.isFatal = true) ∨ ∃ e, p.answer = .error e ∧ e.isFatal = false ∧
      console.refusal? (failedNote p e) = some f := by
  unfold decision
  rcases p.answer with e | source
  · cases he : e.isFatal with
    | true =>
      simp only [he, if_true, Except.error.injEq]
      refine ⟨fun h => Or.inl ⟨h, h ▸ he⟩, fun h => ?_⟩
      rcases h with ⟨h, -⟩ | ⟨f', rfl, he', -⟩
      · exact h
      · rw [he] at he'
        cases he'
    | false =>
      have hordinary : ¬ (e = f ∧ f.isFatal = true) := by
        rintro ⟨rfl, hf⟩
        rw [he] at hf
        cases hf
      cases hr : console.refusal? (failedNote p e) <;> simp [he, hr, hordinary]
  · simp

theorem declines_eq_true_iff : declines console p = true ↔ decision console p = .ok none := by
  unfold declines
  rcases decision console p with e | _ | source <;> simp

/-- A provider that does not decline ends the search with a source or a fault. -/
theorem declines_eq_false_iff :
    declines console p = false ↔ ∃ o : Except Fault Source, decision console p = o.map some := by
  unfold declines
  rcases decision console p with e | _ | source
  · exact iff_of_true rfl ⟨.error e, rfl⟩
  · refine iff_of_false Bool.noConfusion fun ⟨o, ho⟩ => ?_
    cases o <;> cases ho
  · exact iff_of_true rfl ⟨.ok source, rfl⟩

/-- A provider that declines is passed over, with a note if it failed. -/
theorem offered_cons_of_declines (h : declines console p = true) (rest : List Provider) :
    offered console (p :: rest) =
      { result := (offered console rest).result
        asked := (offered console rest).asked + 1
        log := declinedNotes [p] ++ (offered console rest).log } := by
  rw [offered]
  rcases decision_eq_none_iff.mp (declines_eq_true_iff.mp h) with hp | ⟨e, hp, he, hr⟩
  · simp [hp, declinedNotes]
  · simp [hp, he, hr, declinedNotes]

/-- Any other provider ends the search, and no note is made about it. -/
theorem offered_cons_of_decided (h : declines console p = false) (rest : List Provider) :
    offered console (p :: rest) = { result := decision console p, asked := 1 } := by
  rw [offered]
  obtain ⟨o, ho⟩ := declines_eq_false_iff.mp h
  cases o with
  | ok source =>
    have hp := decision_eq_source_iff.mp ho
    simp only [hp, ho]
    rfl
  | error f =>
    rcases decision_eq_error_iff.mp ho with ⟨hp, hf⟩ | ⟨e, hp, he, hr⟩
    · simp only [hp, hf, ho]
      rfl
    · simp only [hp, he, hr, ho]
      rfl

/-- **Providers that decline** are passed over, by induction on them. -/
theorem offered_append {before : List Provider} (h : ∀ p ∈ before, declines console p = true)
    (rest : List Provider) : offered console (before ++ rest) =
      { result := (offered console rest).result
        asked := before.length + (offered console rest).asked
        log := declinedNotes before ++ (offered console rest).log } := by
  induction before with
  | nil => simp [declinedNotes]
  | cons p before ih =>
    have hp : declines console p = true := h p List.mem_cons_self
    have hbefore := ih fun q hq => h q (List.mem_cons_of_mem p hq)
    have hnotes : declinedNotes (p :: before) = declinedNotes [p] ++ declinedNotes before :=
      List.filterMap_append (l := [p])
    rw [List.cons_append, offered_cons_of_declines hp, hbefore, hnotes, List.append_assoc,
      List.length_cons, Nat.add_right_comm]

/-- If all providers decline, all are asked and there is nothing. -/
theorem offered_of_all {providers : List Provider}
    (h : ∀ p ∈ providers, declines console p = true) : offered console providers =
      { result := .ok none, asked := providers.length, log := declinedNotes providers } := by
  have happend := offered_append h []
  rw [List.append_nil] at happend
  rw [happend, offered]
  simp

/-- **The first provider that does not decline** ends the search, and no note is made about it. -/
theorem offered_of_decided {before : List Provider} (h : ∀ p ∈ before, declines console p = true)
    (hp : declines console p = false) (rest : List Provider) :
    offered console (before ++ p :: rest) =
      { result := decision console p, asked := before.length + 1
        log := declinedNotes before } := by
  rw [offered_append h, offered_cons_of_decided hp, List.append_nil]

/-- Either all providers decline, or there is a first one that does not. -/
theorem split_providers (console : Log.Console) (providers : List Provider) :
    (∀ p ∈ providers, declines console p = true) ∨
    ∃ before p rest, providers = before ++ p :: rest ∧
      (∀ q ∈ before, declines console q = true) ∧ declines console p = false := by
  induction providers with
  | nil => exact Or.inl nofun
  | cons p providers ih =>
    cases hp : declines console p with
    | false => exact Or.inr ⟨[], p, providers, rfl, nofun, hp⟩
    | true =>
      rcases ih with hall | ⟨before, q, rest, rfl, hbefore, hq⟩
      · exact Or.inl (List.forall_mem_cons.mpr ⟨hp, hall⟩)
      · exact Or.inr ⟨p :: before, q, rest, rfl, List.forall_mem_cons.mpr ⟨hp, hbefore⟩, hq⟩

/-- **A provider is asked** exactly if there is one and the ones before it decline. -/
theorem lt_offered_asked_iff {providers : List Provider} {k : Nat} :
    k < (offered console providers).asked ↔
      k < providers.length ∧ ∀ p ∈ providers.take k, declines console p = true := by
  rcases split_providers console providers with hall | ⟨before, p, rest, rfl, hbefore, hp⟩
  · rw [offered_of_all hall]
    exact (and_iff_left fun q hq => hall q (List.mem_of_mem_take hq)).symm
  · rw [offered_of_decided hbefore hp rest]
    have hlength : (before ++ p :: rest).length = before.length + 1 + rest.length := by
      rw [List.length_append, List.length_cons, Nat.add_assoc, Nat.add_comm 1]
    constructor
    · intro (hk : k < before.length + 1)
      rw [List.take_append_of_le_length (Nat.le_of_lt_succ hk)]
      exact ⟨by omega, fun q hq => hbefore q (List.mem_of_mem_take hq)⟩
    · rintro ⟨hk, hdeclines⟩
      show k < before.length + 1
      -- A place further on has the provider that decides before it.
      by_contra hbeyond
      have hmem : p ∈ (before ++ p :: rest).take k :=
        List.mem_take_iff_getElem.mpr ⟨before.length, by omega, by simp⟩
      rw [hdeclines p hmem] at hp
      cases hp

end Providers

/-! ### Steps -/

section Steps

variable (s : Settings) (c : Config) (around : Surroundings) (base : Path)
  (providers : List Provider)

/-- **What a step ends the search with**, seen alone: the settings (0), the configuration (1), the
structured file (2), the legacy file (3), and the provider of place `k` (`k + 4`). A provider ends
it with the source that it offers, with a fault that no stage may record, or with the fault of the
console that does not take the note about an ordinary one. A step for which nothing is listed passes
the search on. So does a file that the path does not lead to, whatever stands in the way. -/
inductive Ends : Nat → Except Fault Source → Prop
  | settings {uri : String} (h : s.initialUri = some uri) (hne : uri ≠ "") :
      Ends 0 (.ok ⟨uri, .autodetect, "initial catalog URI", false⟩)
  | configuration {url : String} (h : c.get "catalog.url" = .text url)
      (hblank : Text.allBlank url = false) :
      Ends 1 (.ok ⟨Text.strip url, .autodetect, "'catalog.url' setting", false⟩)
  | structuredFile {l : Location} {bytes : List UInt8}
      (h : around.files.find around.directory (base.child "catalog.bom") = .ok (l, .file bytes)) :
      Ends 2 (.ok ⟨(around.resolve (base.child "catalog.bom")).toUri, .yaml, "local catalog.bom",
        false⟩)
  | legacyFile {l : Location} {bytes : List UInt8}
      (h : around.files.find around.directory (base.child "catalog.xml") = .ok (l, .file bytes)) :
      Ends 3 (.ok ⟨(around.resolve (base.child "catalog.xml")).toUri, .xml, "local catalog.xml",
        true⟩)
  | provider {k : Nat} {p : Provider} {src : Source} (hp : providers[k]? = some p)
      (h : p.answer = .ok (some src)) : Ends (k + 4) (.ok src)
  | fault {k : Nat} {p : Provider} {e : Fault} (hp : providers[k]? = some p)
      (h : p.answer = .error e) (he : e.isFatal = true) : Ends (k + 4) (.error e)
  | refused {k : Nat} {p : Provider} {e refusal : Fault} (hp : providers[k]? = some p)
      (h : p.answer = .error e) (he : e.isFatal = false)
      (hr : around.console.refusal? (failedNote p e) = some refusal) : Ends (k + 4) (.error refusal)

/-- The first step that ends the search, and with what. -/
def FirstEnd (n : Nat) (o : Except Fault Source) : Prop :=
  Ends s c around base providers n o ∧ ∀ m < n, ∀ o', ¬ Ends s c around base providers m o'

end Steps

variable {s : Settings} {c : Config} {around : Surroundings} {base : Path}
  {providers : List Provider} {o : Except Fault Source} {n k : Nat}

/-! ### Steps before the providers -/

/-- What the steps before the providers offer. -/
def offers (s : Settings) (c : Config) (around : Surroundings) (base : Path) :
    List (Option Source) :=
  [ofSettings? s, ofConfig? c, ofFile? around base "catalog.bom" .yaml false,
    ofFile? around base "catalog.xml" .xml true]

theorem ofSettings_eq_some_iff {src : Source} : ofSettings? s = some src ↔
    ∃ uri, s.initialUri = some uri ∧ uri ≠ "" ∧
      src = ⟨uri, .autodetect, "initial catalog URI", false⟩ := by
  unfold ofSettings?
  rw [Option.map_eq_some_iff]
  simp only [Option.filter_eq_some_iff, decide_eq_true_eq, and_assoc, eq_comm (b := src)]

theorem ofConfig_eq_some_iff {src : Source} : ofConfig? c = some src ↔
    ∃ url, c.get "catalog.url" = .text url ∧ Text.allBlank url = false ∧
      src = ⟨Text.strip url, .autodetect, "'catalog.url' setting", false⟩ := by
  unfold ofConfig? urlSetting
  constructor
  · intro h
    split at h
    · next url hurl =>
      split_ifs at h with hblank
      cases h
      exact ⟨url, hurl, by simpa using hblank, rfl⟩
    · cases h
  · rintro ⟨url, hurl, hblank, rfl⟩
    rw [hurl]
    simp only [hblank]
    rfl

/-- **A step before the providers** ends the search exactly with what it offers. -/
theorem ends_offer_iff {m : Nat} (hm : m < 4) : Ends s c around base providers m o ↔
    ∃ src, (offers s c around base)[m]? = some (some src) ∧ o = .ok src := by
  constructor
  · rintro (⟨h, hne⟩ | ⟨h, hblank⟩ | h | h | _ | _ | _)
    · exact ⟨_, congrArg some (ofSettings_eq_some_iff.mpr ⟨_, h, hne, rfl⟩), rfl⟩
    · exact ⟨_, congrArg some (ofConfig_eq_some_iff.mpr ⟨_, h, hblank, rfl⟩), rfl⟩
    · exact ⟨_, congrArg some (ofFile_eq_some_iff.mpr ⟨isFile_iff.mpr ⟨_, _, h⟩, rfl⟩), rfl⟩
    · exact ⟨_, congrArg some (ofFile_eq_some_iff.mpr ⟨isFile_iff.mpr ⟨_, _, h⟩, rfl⟩), rfl⟩
    · omega
    · omega
    · omega
  · rintro ⟨src, h, rfl⟩
    match m with
    | 0 =>
      obtain ⟨uri, huri, hne, rfl⟩ := ofSettings_eq_some_iff.mp (Option.some.inj h)
      exact .settings huri hne
    | 1 =>
      obtain ⟨url, hurl, hblank, rfl⟩ := ofConfig_eq_some_iff.mp (Option.some.inj h)
      exact .configuration hurl hblank
    | 2 =>
      obtain ⟨hfile, rfl⟩ := ofFile_eq_some_iff.mp (Option.some.inj h)
      obtain ⟨l, bytes, hfind⟩ := isFile_iff.mp hfile
      exact .structuredFile hfind
    | 3 =>
      obtain ⟨hfile, rfl⟩ := ofFile_eq_some_iff.mp (Option.some.inj h)
      obtain ⟨l, bytes, hfind⟩ := isFile_iff.mp hfile
      exact .legacyFile hfind

/-- **A provider** ends the search exactly if asking it gives a source or a fault, and with that. -/
theorem ends_provider_iff : Ends s c around base providers (k + 4) o ↔
    ∃ p, providers[k]? = some p ∧ decision around.console p = o.map some := by
  constructor
  · rintro (_ | _ | _ | _ | ⟨hp, h⟩ | ⟨hp, h, he⟩ | ⟨hp, h, he, hr⟩)
    · exact ⟨_, hp, decision_eq_source_iff.mpr h⟩
    · exact ⟨_, hp, decision_eq_error_iff.mpr (Or.inl ⟨h, he⟩)⟩
    · exact ⟨_, hp, decision_eq_error_iff.mpr (Or.inr ⟨_, h, he, hr⟩)⟩
  · rintro ⟨p, hp, h⟩
    cases o with
    | ok src => exact .provider hp (decision_eq_source_iff.mp h)
    | error e =>
      rcases decision_eq_error_iff.mp h with ⟨he, hfatal⟩ | ⟨f, hf, hordinary, hr⟩
      · exact .fault hp he hfatal
      · exact .refused hp hf hordinary hr

/-! ### The first end -/

theorem ends_unique {o' : Except Fault Source} (h : Ends s c around base providers n o)
    (h' : Ends s c around base providers n o') : o = o' := by
  rcases Nat.lt_or_ge n 4 with hn | hn
  · obtain ⟨src, hsrc, rfl⟩ := (ends_offer_iff hn).mp h
    obtain ⟨src', hsrc', rfl⟩ := (ends_offer_iff hn).mp h'
    cases hsrc.symm.trans hsrc'
    rfl
  · obtain ⟨k, rfl⟩ := Nat.exists_eq_add_of_le' hn
    obtain ⟨p, hp, h⟩ := ends_provider_iff.mp h
    obtain ⟨p', hp', h'⟩ := ends_provider_iff.mp h'
    cases hp.symm.trans hp'
    have heq := h.symm.trans h'
    cases o <;> cases o' <;> cases heq <;> rfl

/-- There is at most one first end. -/
theorem FirstEnd.unique {m : Nat} {o' : Except Fault Source}
    (h : FirstEnd s c around base providers n o) (h' : FirstEnd s c around base providers m o') :
    n = m ∧ o = o' := by
  rcases Nat.lt_trichotomy n m with hlt | rfl | hgt
  · exact absurd h.1 (h'.2 n hlt o)
  · exact ⟨rfl, ends_unique h.1 h'.1⟩
  · exact absurd h'.1 (h.2 m hgt o')

/-- The search goes through the offers in their order, and then asks the providers. -/
theorem resolve_eq (hallowed : s.disallowLocal = false) (hbase : baseDirectory c around = .ok base)
    (providers : List Provider) (firstPass : Bool) : resolve s c around providers firstPass =
      match (offers s c around base).findSome? id with
      | some src => { result := .ok (some src) }
      | none => offered around.console providers := by
  unfold resolve found offers local?
  simp only [hallowed, hbase]
  cases ofSettings? s with
  | some src => rfl
  | none =>
    cases ofConfig? c with
    | some src => rfl
    | none =>
      cases ofFile? around base "catalog.bom" .yaml false with
      | some src => rfl
      | none => cases ofFile? around base "catalog.xml" .xml true <;> rfl

theorem firstEnd_of_offer {src : Source} (h : (offers s c around base).findSome? id = some src)
    (providers : List Provider) : ∃ n < 4, FirstEnd s c around base providers n (.ok src) := by
  obtain ⟨before, offer, after, hsplit, rfl, hbefore⟩ := List.findSome?_eq_some_iff.mp h
  have hlength := congrArg List.length hsplit
  have hn : before.length < 4 := by
    simp only [offers, List.length_append, List.length_cons, List.length_nil] at hlength
    omega
  -- The place of the offer is the number of the steps that offer nothing before it.
  refine ⟨before.length, hn, (ends_offer_iff hn).mpr ⟨src, ?_, rfl⟩, fun m hm o hends => ?_⟩
  · rw [hsplit, List.getElem?_append_right (Nat.le_refl _), Nat.sub_self]
    rfl
  · obtain ⟨src', hsrc', -⟩ := (ends_offer_iff (Nat.lt_trans hm hn)).mp hends
    rw [hsplit, List.getElem?_append_left hm] at hsrc'
    cases hbefore _ (List.mem_of_getElem? hsrc')

theorem not_ends_of_no_offer (h : (offers s c around base).findSome? id = none)
    (providers : List Provider) : ∀ m < 4, ∀ o, ¬ Ends s c around base providers m o := by
  intro m hm o hends
  obtain ⟨src, hsrc, -⟩ := (ends_offer_iff hm).mp hends
  cases List.findSome?_eq_none_iff.mp h _ (List.mem_of_getElem? hsrc)

/-- **What comes before a provider** passes the search on exactly if there is no offer and the
providers before it decline. -/
theorem not_ends_before_iff : (∀ m < k + 4, ∀ o, ¬ Ends s c around base providers m o) ↔
    (∀ m < 4, ∀ o, ¬ Ends s c around base providers m o) ∧
      ∀ p ∈ providers.take k, declines around.console p = true := by
  constructor
  · intro h
    refine ⟨fun m hm => h m (by omega), fun p hp => ?_⟩
    obtain ⟨j, hj, rfl⟩ := List.mem_take_iff_getElem.mp hp
    by_contra hdeclines
    obtain ⟨o, ho⟩ := declines_eq_false_iff.mp (Bool.eq_false_iff.mpr hdeclines)
    exact h (j + 4) (by omega) o
      (ends_provider_iff.mpr ⟨_, List.getElem?_eq_getElem (by omega), ho⟩)
  · rintro ⟨hearly, hproviders⟩ m hm o hends
    rcases Nat.lt_or_ge m 4 with hm' | hm'
    · exact hearly m hm' o hends
    · obtain ⟨j, rfl⟩ := Nat.exists_eq_add_of_le' hm'
      obtain ⟨p, hp, ho⟩ := ends_provider_iff.mp hends
      have hmem : p ∈ providers.take k :=
        List.mem_of_getElem? ((List.getElem?_take_of_lt (by omega)).trans hp)
      have hdecided := declines_eq_false_iff.mpr ⟨o, ho⟩
      rw [hproviders p hmem] at hdecided
      cases hdecided

/-- **The search** comes to what its first end says, having asked the providers up to it, or to
nothing, having asked all of them. -/
theorem resolve_cases (hallowed : s.disallowLocal = false)
    (hbase : baseDirectory c around = .ok base) (providers : List Provider) (firstPass : Bool) :
    (∃ n o, FirstEnd s c around base providers n o ∧ resolve s c around providers firstPass =
      { result := o.map some, asked := n + 1 - 4, log := declinedNotes (providers.take (n - 4)) }) ∨
    ((∀ n o, ¬ Ends s c around base providers n o) ∧ resolve s c around providers firstPass =
      { result := .ok none, asked := providers.length, log := declinedNotes providers }) := by
  rw [resolve_eq hallowed hbase]
  cases hoffers : (offers s c around base).findSome? id with
  | some src =>
    obtain ⟨n, hn, hfirst⟩ := firstEnd_of_offer hoffers providers
    refine Or.inl ⟨n, .ok src, hfirst, ?_⟩
    rw [Nat.sub_eq_zero_of_le (Nat.le_of_lt hn), Nat.sub_eq_zero_of_le hn]
    rfl
  | none =>
    -- No step before the providers ends the search, so the first that does not decline does.
    have hearly := not_ends_of_no_offer hoffers
    rcases split_providers around.console providers with hall | ⟨before, p, rest, rfl, hbefore, hp⟩
    · refine Or.inr ⟨fun n => ?_, offered_of_all hall⟩
      have hbefore : ∀ p ∈ providers.take n, declines around.console p = true := fun p hp =>
        hall p (List.mem_of_mem_take hp)
      exact not_ends_before_iff.mpr ⟨hearly providers, hbefore⟩ n (by omega)
    · obtain ⟨o, ho⟩ := declines_eq_false_iff.mp hp
      refine Or.inl ⟨before.length + 4, o, ⟨ends_provider_iff.mpr ⟨p, ?_, ho⟩, ?_⟩, ?_⟩
      · rw [List.getElem?_append_right (Nat.le_refl _), Nat.sub_self]
        rfl
      · refine not_ends_before_iff.mpr ⟨hearly _, ?_⟩
        rwa [List.take_left]
      · rw [offered_of_decided hbefore hp rest, ho, Nat.add_sub_cancel, List.take_left,
          Nat.add_right_comm, Nat.add_sub_cancel]

/-! ### What the search gives -/

/-- **A provider is asked** exactly if there is one and nothing before it ends the search. -/
theorem lt_asked_iff (hallowed : s.disallowLocal = false)
    (hbase : baseDirectory c around = .ok base) (firstPass : Bool) :
    k < (resolve s c around providers firstPass).asked ↔
      k < providers.length ∧ ∀ m < k + 4, ∀ o, ¬ Ends s c around base providers m o := by
  rcases resolve_cases hallowed hbase providers firstPass with ⟨n, o, hfirst, hr⟩ | ⟨hnone, hr⟩
  · have hasked : k < n + 1 - 4 ↔ k + 4 ≤ n := by omega
    rw [hr, hasked]
    constructor
    · intro hk
      obtain ⟨j, rfl⟩ := Nat.exists_eq_add_of_le' (Nat.le_trans (Nat.le_add_left 4 k) hk)
      obtain ⟨p, hp, -⟩ := ends_provider_iff.mp hfirst.1
      obtain ⟨hj, -⟩ := List.getElem?_eq_some_iff.mp hp
      exact ⟨by omega, fun m hm => hfirst.2 m (by omega)⟩
    · rintro ⟨-, hbefore⟩
      by_contra hk
      exact hbefore n (by omega) o hfirst.1
  · rw [hr]
    exact ⟨fun hk => ⟨hk, fun m _ => hnone m⟩, fun h => h.1⟩

/-- What is said is about the providers that were asked and declined. -/
theorem resolve_log (hallowed : s.disallowLocal = false)
    (hbase : baseDirectory c around = .ok base) (firstPass : Bool) :
    (resolve s c around providers firstPass).log = declinedNotes
      ((providers.take (resolve s c around providers firstPass).asked).filter
        (declines around.console)) := by
  rcases resolve_cases hallowed hbase providers firstPass with ⟨n, o, hfirst, hr⟩ | ⟨hnone, hr⟩
  · rw [hr]
    rcases Nat.lt_or_ge n 4 with hn | hn
    · have hlog : n - 4 = 0 := by omega
      have hasked : n + 1 - 4 = 0 := by omega
      simp only [hlog, hasked, List.take_zero, List.filter_nil]
    · obtain ⟨j, rfl⟩ := Nat.exists_eq_add_of_le' hn
      obtain ⟨p, hp, ho⟩ := ends_provider_iff.mp hfirst.1
      have hdecided := declines_eq_false_iff.mpr ⟨o, ho⟩
      have hbefore := (not_ends_before_iff.mp hfirst.2).2
      -- The last one that was asked did not decline, and the ones before it did.
      have hasked : j + 4 + 1 - 4 = j + 1 := by omega
      simp only [hasked, Nat.add_sub_cancel]
      rw [List.take_add_one, hp, List.filter_append, List.filter_eq_self.mpr hbefore,
        Option.toList_some, List.filter_singleton, hdecided]
      simp
  · rw [hr]
    have hall := (not_ends_before_iff (k := providers.length)).mp fun m _ => hnone m
    simp only [List.take_length] at hall ⊢
    rw [List.filter_eq_self.mpr hall.2]

theorem resolve_result_iff (hallowed : s.disallowLocal = false)
    (hbase : baseDirectory c around = .ok base) (firstPass : Bool) :
    (resolve s c around providers firstPass).result = o.map some ↔
      ∃ n, FirstEnd s c around base providers n o := by
  rcases resolve_cases hallowed hbase providers firstPass with ⟨n, o', hfirst, hr⟩ | ⟨hnone, hr⟩
  · rw [hr]
    constructor
    · intro heq
      have ho : o' = o := by
        cases o' <;> cases o <;> cases heq <;> rfl
      exact ⟨n, ho ▸ hfirst⟩
    · rintro ⟨m, hfirst'⟩
      rw [(hfirst.unique hfirst').2]
  · rw [hr]
    refine iff_of_false (fun heq => ?_) fun ⟨n, hfirst⟩ => hnone n o hfirst.1
    cases o <;> cases heq

theorem resolve_none_iff (hallowed : s.disallowLocal = false)
    (hbase : baseDirectory c around = .ok base) (firstPass : Bool) :
    (resolve s c around providers firstPass).result = .ok none ↔
      ∀ n o, ¬ Ends s c around base providers n o := by
  rcases resolve_cases hallowed hbase providers firstPass with ⟨n, o, hfirst, hr⟩ | ⟨hnone, hr⟩
  · rw [hr]
    refine iff_of_false (fun heq => ?_) fun hnone => hnone n o hfirst.1
    cases o <;> cases heq
  · rw [hr]
    exact iff_of_true rfl hnone

/-- **The first match wins.** If no source may be read there is none, and nobody is asked. Otherwise
the search gives the source with which a step ends it first, it raises the fault with which a
provider ends it first, and it gives nothing if no step ends it. A provider is asked exactly if no
step before the providers ends the search and every provider before it offers nothing or fails in an
ordinary way, with a note that the console takes. Each one that is asked and fails so is noted once,
and nothing else is said. -/
theorem resolve_first_match (s : Settings) {c : Config} {around : Surroundings} {base : Path}
    (hbase : baseDirectory c around = .ok base) (providers : List Provider) (firstPass : Bool) :
    let r := resolve s c around providers firstPass
    (s.disallowLocal = true →
      r = { result := .ok none, log := if firstPass then [disallowedNote] else [] }) ∧
    (s.disallowLocal = false →
      (∀ src, r.result = .ok (some src) ↔ ∃ n, FirstEnd s c around base providers n (.ok src)) ∧
      (∀ e, r.result = .error e ↔ ∃ n, FirstEnd s c around base providers n (.error e)) ∧
      (r.result = .ok none ↔ ∀ n o, ¬ Ends s c around base providers n o) ∧
      (∀ k, k < r.asked ↔ k < providers.length ∧
        (∀ m < 4, ∀ o, ¬ Ends s c around base providers m o) ∧
        ∀ p ∈ providers.take k, p.answer = .ok none ∨ ∃ e, p.answer = .error e ∧
          e.isFatal = false ∧ around.console.refusal? (failedNote p e) = none) ∧
      r.log = declinedNotes ((providers.take r.asked).filter (declines around.console))) := by
  refine ⟨fun hdisallowed => if_pos hdisallowed, fun hallowed => ?_⟩
  refine ⟨fun src => resolve_result_iff (o := .ok src) hallowed hbase firstPass,
    fun e => resolve_result_iff (o := .error e) hallowed hbase firstPass,
    resolve_none_iff hallowed hbase firstPass, fun k => ?_, resolve_log hallowed hbase firstPass⟩
  rw [lt_asked_iff hallowed hbase, not_ends_before_iff]
  simp only [declines_eq_true_iff, decision_eq_none_iff]

/-- Four providers: one offers nothing, one fails, and two offer a source. -/
def fourProviders : List Provider :=
  [⟨"nothing", .ok none⟩, ⟨"failing", .error (.failure .value "broken")⟩,
    ⟨"third", .ok (some ⟨"mem://c", .yaml, "third", false⟩)⟩,
    ⟨"fourth", .ok (some ⟨"mem://d", .yaml, "fourth", false⟩)⟩]

/-- The third of them is the first that offers a source, and the fourth is not asked. -/
theorem resolve_first_match_of_third :
    (resolve {} (basedAt "/srv") {} fourProviders true).result =
      .ok (some ⟨"mem://c", .yaml, "third", false⟩) ∧
    2 < (resolve {} (basedAt "/srv") {} fourProviders true).asked ∧
    ¬ 3 < (resolve {} (basedAt "/srv") {} fourProviders true).asked := by
  have hbase : baseDirectory (basedAt "/srv") {} = .ok ⟨"/", ["srv"]⟩ := rfl
  have hoffers : (offers {} (basedAt "/srv") {} ⟨"/", ["srv"]⟩).findSome? id = none := by
    decide +kernel
  have hearly := not_ends_of_no_offer hoffers fourProviders
  have hdecline : ∀ p ∈ fourProviders.take 2, declines .verbatim p = true := by decide
  have hfirst : FirstEnd {} (basedAt "/srv") {} ⟨"/", ["srv"]⟩ fourProviders 6
      (.ok ⟨"mem://c", .yaml, "third", false⟩) :=
    ⟨.provider rfl rfl, not_ends_before_iff.mpr ⟨hearly, hdecline⟩⟩
  obtain ⟨-, hallowed⟩ := resolve_first_match {} hbase fourProviders true
  obtain ⟨hsource, -, -, hasked, -⟩ := hallowed rfl
  refine ⟨(hsource _).mpr ⟨6, hfirst⟩, (hasked 2).mpr ⟨by decide, hearly, fun p hp =>
    decision_eq_none_iff.mp (declines_eq_true_iff.mp (hdecline p hp))⟩, fun h => ?_⟩
  have h3 := ((hasked 3).mp h).2.2
  simp [fourProviders] at h3

/-- A provider that says that the memory is used up ends the search with its fault, and nothing is
said about it. -/
theorem resolve_of_exhausted_memory :
    (resolve {} (basedAt "/srv") {} [⟨"full", .error (.memory "full")⟩] true).result =
      .error (.memory "full") ∧
    (resolve {} (basedAt "/srv") {} [⟨"full", .error (.memory "full")⟩] true).asked = 1 ∧
    (resolve {} (basedAt "/srv") {} [⟨"full", .error (.memory "full")⟩] true).log = [] := by
  exact ⟨rfl, rfl, rfl⟩

/-! ### What the search raises -/

/-- The search gets to the files of the base directory. -/
def ReachesFiles (s : Settings) (c : Config) : Prop :=
  s.disallowLocal = false ∧ ofSettings? s = none ∧ ofConfig? c = none

/-- **The base directory cannot be found out** exactly if its setting holds a number too long to be
written, or is a path that starts with the name of someone without a home. -/
theorem baseDirectory_eq_error_iff {e : Fault} : baseDirectory c around = .error e ↔
    ((c.get baseSetting).isOverlong = true ∧ e = .overlong) ∨
    ((c.get baseSetting).isOverlong = false ∧
      (Path.ofText (baseText c)).Homeless around.home ∧
      e = noHomeFault (Path.ofText (baseText c))) := by
  unfold baseDirectory
  rw [← Path.expandHome_eq_none_iff]
  cases (c.get baseSetting).isOverlong with
  | true => simp [eq_comm]
  | false =>
    cases hexpand : (Path.ofText (baseText c)).expandHome? around.home <;>
      simp [hexpand, eq_comm]

/-- No stage has to pass such a fault on. -/
theorem baseDirectory_not_isFatal {e : Fault} (h : baseDirectory c around = .error e) :
    e.isFatal = false := by
  rcases baseDirectory_eq_error_iff.mp h with ⟨-, rfl⟩ | ⟨-, -, rfl⟩
  · rfl
  · unfold noHomeFault
    split_ifs <;> rfl

theorem resolve_of_no_base (hreaches : ReachesFiles s c) {e : Fault}
    (h : baseDirectory c around = .error e) (providers : List Provider) (firstPass : Bool) :
    resolve s c around providers firstPass = { result := .error e } := by
  obtain ⟨hallowed, hsettings, hconfig⟩ := hreaches
  unfold resolve found
  simp only [hallowed, hsettings, hconfig, h]
  rfl

/-- A search that does not get to the files asks nobody and raises nothing. -/
theorem resolve_of_not_reaches (h : ¬ ReachesFiles s c) (around : Surroundings)
    (providers : List Provider) (firstPass : Bool) :
    ∃ source log, resolve s c around providers firstPass = { result := .ok source, log } := by
  unfold resolve found
  cases hallowed : s.disallowLocal with
  | true => exact ⟨none, _, rfl⟩
  | false =>
    cases hsettings : ofSettings? s with
    | some src => exact ⟨some src, _, rfl⟩
    | none =>
      cases hconfig : ofConfig? c with
      | some src => exact ⟨some src, _, rfl⟩
      | none => exact absurd ⟨hallowed, hsettings, hconfig⟩ h

/-- The console takes the note about each provider that is asked and fails in an ordinary way. -/
def TakesNotes (s : Settings) (c : Config) (around : Surroundings) (providers : List Provider)
    (firstPass : Bool) : Prop :=
  ∀ p ∈ providers.take (resolve s c around providers firstPass).asked, ∀ e,
    p.answer = .error e → e.isFatal = false → around.console.refusal? (failedNote p e) = none

/-- Once the base directory is known, a fault comes from the last provider that was asked. -/
theorem resolve_error_of_base (hallowed : s.disallowLocal = false)
    (hbase : baseDirectory c around = .ok base) {firstPass : Bool} {f : Fault}
    (h : (resolve s c around providers firstPass).result = .error f) :
    ∃ p ∈ providers.take (resolve s c around providers firstPass).asked,
      decision around.console p = .error f := by
  obtain ⟨n, hends, hbefore⟩ :=
    (resolve_result_iff (o := .error f) hallowed hbase firstPass).mp h
  have hn : 4 ≤ n := by
    by_contra hn
    obtain ⟨src, -, hsrc⟩ := (ends_offer_iff (Nat.lt_of_not_ge hn)).mp hends
    cases hsrc
  obtain ⟨k, rfl⟩ := Nat.exists_eq_add_of_le' hn
  obtain ⟨p, hp, hdecision⟩ := ends_provider_iff.mp hends
  obtain ⟨hk, -⟩ := List.getElem?_eq_some_iff.mp hp
  have hasked := (lt_asked_iff hallowed hbase firstPass).mpr ⟨hk, hbefore⟩
  exact ⟨p, List.mem_of_getElem? ((List.getElem?_take_of_lt hasked).trans hp), hdecision⟩

/-- A provider that is asked and whose note is refused ends the search with what the console raises,
which is an ordinary fault. -/
theorem resolve_of_refused {firstPass : Bool} {p : Provider} {e f : Fault}
    (hasked : p ∈ providers.take (resolve s c around providers firstPass).asked)
    (hp : p.answer = .error e) (he : e.isFatal = false)
    (hr : around.console.refusal? (failedNote p e) = some f) :
    (resolve s c around providers firstPass).result = .error f ∧ f.isFatal = false := by
  refine ⟨?_, around.console.refusal?_ordinary _ _ hr⟩
  have hdecision : decision around.console p = .error f :=
    decision_eq_error_iff.mpr (Or.inr ⟨e, hp, he, hr⟩)
  obtain ⟨k, hk, rfl⟩ := List.mem_take_iff_getElem.mp hasked
  obtain ⟨hk, hlength⟩ := Nat.lt_min.mp hk
  -- Somebody is asked, so the search gets to the providers.
  have hallowed : s.disallowLocal = false := by
    cases hs : s.disallowLocal with
    | false => rfl
    | true =>
      rw [resolve, if_pos hs] at hk
      cases hk
  obtain ⟨base, hbase⟩ : ∃ base, baseDirectory c around = .ok base := by
    cases hbase : baseDirectory c around with
    | ok base => exact ⟨base, rfl⟩
    | error g =>
      by_cases hreaches : ReachesFiles s c
      · rw [resolve_of_no_base hreaches hbase] at hk
        cases hk
      · obtain ⟨source, log, hresolve⟩ :=
          resolve_of_not_reaches hreaches around providers firstPass
        rw [hresolve] at hk
        cases hk
  obtain ⟨-, hbefore⟩ := (lt_asked_iff hallowed hbase firstPass).mp hk
  exact (resolve_result_iff (o := .error f) hallowed hbase firstPass).mpr
    ⟨k + 4, ends_provider_iff.mpr ⟨_, List.getElem?_eq_getElem hlength, hdecision⟩, hbefore⟩

/-- **What the search raises.** It raises nothing but what no stage may record, from a provider that
it asked, exactly if it does not get to the files of the base directory or can find out which
directory that is, and the console takes each note about a provider. Otherwise it raises an ordinary
fault. If it cannot find out the directory it asks nobody: the setting holds a number too long to be
written, or it is a path that starts with the name of someone whose home directory is not known. If
the console does not take a note, the search ends with what the console raises. -/
theorem resolve_raises_only_fatal_iff (s : Settings) (c : Config) (around : Surroundings)
    (providers : List Provider) (firstPass : Bool) :
    let r := resolve s c around providers firstPass
    ((∀ e, r.result = .error e →
        e.isFatal = true ∧ ∃ p ∈ providers.take r.asked, p.answer = .error e) ↔
      (ReachesFiles s c → ∃ base, baseDirectory c around = .ok base) ∧
        TakesNotes s c around providers firstPass) ∧
    (ReachesFiles s c → ∀ e, baseDirectory c around = .error e →
      r = { result := .error e } ∧ e.isFatal = false) ∧
    (∀ e, baseDirectory c around = .error e ↔
      ((c.get baseSetting).isOverlong = true ∧ e = .overlong) ∨
      ((c.get baseSetting).isOverlong = false ∧
        (Path.ofText (baseText c)).Homeless around.home ∧
        e = noHomeFault (Path.ofText (baseText c)))) ∧
    ∀ p ∈ providers.take r.asked, ∀ e f, p.answer = .error e → e.isFatal = false →
      around.console.refusal? (failedNote p e) = some f →
      r.result = .error f ∧ f.isFatal = false := by
  refine ⟨⟨fun h => ⟨fun hreaches => ?_, fun p hasked e hp he => ?_⟩,
      fun ⟨hbase, hnotes⟩ e he => ?_⟩,
    fun hreaches e he => ?_, fun e => baseDirectory_eq_error_iff,
    fun p hasked e f => resolve_of_refused hasked⟩
  · cases hbase : baseDirectory c around with
    | ok base => exact ⟨base, rfl⟩
    | error e =>
      have hr := resolve_of_no_base hreaches hbase providers firstPass
      have hfatal := (h e (congrArg Resolution.result hr)).1
      rw [baseDirectory_not_isFatal hbase] at hfatal
      cases hfatal
  · cases hr : around.console.refusal? (failedNote p e) with
    | none => rfl
    | some f =>
      obtain ⟨hresult, hf⟩ := resolve_of_refused hasked hp he hr
      rw [(h f hresult).1] at hf
      cases hf
  · by_cases hreaches : ReachesFiles s c
    · obtain ⟨base, hbase⟩ := hbase hreaches
      obtain ⟨p, hasked, hdecision⟩ := resolve_error_of_base hreaches.1 hbase he
      rcases decision_eq_error_iff.mp hdecision with ⟨hp, hfatal⟩ | ⟨f, hp, hf, hr⟩
      · exact ⟨hfatal, p, hasked, hp⟩
      · rw [hnotes p hasked f hp hf] at hr
        cases hr
    · obtain ⟨source, log, hr⟩ := resolve_of_not_reaches hreaches around providers firstPass
      cases (congrArg Resolution.result hr).symm.trans he
  · exact ⟨resolve_of_no_base hreaches he providers firstPass, baseDirectory_not_isFatal he⟩

/-- A base directory in the home of nobody who is known. -/
theorem resolve_of_unknown_home :
    (resolve {} (basedAt "~nouser_x/sub") {} [] true).result =
      .error (.failure .runtime "Could not determine home directory.") ∧
    (Fault.failure .runtime "Could not determine home directory.").isFatal = false := by
  have hpath : Path.ofText (baseText (basedAt "~nouser_x/sub")) = ⟨"", ["~nouser_x", "sub"]⟩ := by
    decide +kernel
  have hhome : Path.homeOf? (Surroundings.home {}) "~nouser_x" = none := by decide +kernel
  have hhomeless : (⟨"", ["~nouser_x", "sub"]⟩ : Path).Homeless (Surroundings.home {}) :=
    Path.homeless_cons_iff.mpr ⟨by decide +kernel, fun h hh => by cases hhome.symm.trans hh⟩
  have hfault : noHomeFault ⟨"", ["~nouser_x", "sub"]⟩ =
      .failure .runtime "Could not determine home directory." := if_neg (by decide +kernel)
  have hbase : baseDirectory (basedAt "~nouser_x/sub") {} =
      .error (.failure .runtime "Could not determine home directory.") :=
    baseDirectory_eq_error_iff.mpr (Or.inr ⟨rfl, hpath ▸ hhomeless, hpath ▸ hfault.symm⟩)
  have hresolve := resolve_of_no_base (s := {}) ⟨rfl, rfl, rfl⟩ hbase [] true
  exact ⟨congrArg Resolution.result hresolve, rfl⟩

/-- A provider whose message closes a tag that is not open: a console of marked texts does not take
the note, and the provider behind it is not asked. -/
theorem resolve_of_closing_tag :
    resolve {} (basedAt "/srv") { console := .marked }
      [⟨"tagged", .error (.failure .value "[/x]")⟩,
        ⟨"second", .ok (some ⟨"mem://b", .yaml, "second", false⟩)⟩] true =
      { result := .error (.ofMarkup (.unopened "/x" 79)), asked := 1 } := by
  have hbase : baseDirectory (basedAt "/srv") { console := .marked } = .ok ⟨"/", ["srv"]⟩ := rfl
  have hoffers : (offers {} (basedAt "/srv") { console := .marked } ⟨"/", ["srv"]⟩).findSome? id =
      none := by
    decide +kernel
  have hshown : Text.Markup.plainText (failedNote ⟨"tagged", .error (.failure .value "[/x]")⟩
      (.failure .value "[/x]")).text = .error (.unopened "/x" 79) := by
    decide +kernel
  have hrefused : Log.Console.marked.refusal? (failedNote
      ⟨"tagged", .error (.failure .value "[/x]")⟩ (.failure .value "[/x]")) =
      some (.ofMarkup (.unopened "/x" 79)) := by
    simp only [Log.Console.marked, hshown]
    rfl
  rw [resolve_eq rfl hbase, hoffers]
  simp [offered, hrefused, Fault.isFatal]

end ItemCatalog.Population.Source
