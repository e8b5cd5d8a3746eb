import ItemCatalog.Resource.Loader
import Mathlib.Tactic.SplitIfs

/-! # Reporting: what gets out of reading an address

A loader reports why it has no text as a resource that could not be had. What files and servers are
in the way of is always reported (`read_recordable`); what no stage may record gets out as it is,
and it comes from a handler or from the start file of a package. An address is split before anything
is reported, and the fault of one that cannot be split gets out as well (`fetch_reports_iff`). -/

namespace ItemCatalog

open Files Text

/-! ### Faults of computations -/

/-- Whether a fault says that a resource could not be had. -/
def Fault.isFetch : Fault → Bool
  | .fetch .. => true
  | _ => false

/-- Whatever fault takes the place of a result has a property. -/
def FaultsAre (P : Fault → Prop) {α : Type} (r : Except Fault α) : Prop :=
  ∀ e, r = .error e → P e

/-- A fault that a stage may record. -/
def Recordable (e : Fault) : Prop :=
  e.isFatal = false

namespace FaultsAre

variable {P Q : Fault → Prop} {α β ε : Type} {r : Except Fault α} {f : α → Except Fault β}

theorem pure (a : α) : FaultsAre P (pure a) := nofun

theorem throw {e : Fault} (h : P e) : FaultsAre P (throw e : Except Fault α) := by
  intro e' he
  rwa [← Except.error.inj he]

theorem throw_bind {e : Fault} (h : P e) : FaultsAre P ((MonadExcept.throw e >>= f)) :=
  throw h

theorem bind (hr : FaultsAre P r) (hf : ∀ a, r = .ok a → FaultsAre P (f a)) :
    FaultsAre P (r >>= f) := by
  cases r with
  | error e => exact throw (hr e rfl)
  | ok a => exact hf a rfl

theorem map {g : α → β} (hr : FaultsAre P r) : FaultsAre P (g <$> r) := by
  cases r with
  | error e => exact throw (hr e rfl)
  | ok a => exact pure (g a)

/-- After a translation of the faults, what holds of every translated fault holds. -/
theorem mapError {r : Except ε α} {g : ε → Fault} (hg : ∀ e, P (g e)) :
    FaultsAre P (r.mapError g) := by
  cases r with
  | error e => exact throw (hg e)
  | ok a => exact pure a

theorem mono (hPQ : ∀ e, P e → Q e) (hr : FaultsAre P r) : FaultsAre Q r :=
  fun e he => hPQ e (hr e he)

end FaultsAre

/-- A computation in two parts has a result only if both have one. -/
theorem ok_of_bind {α β : Type} {r : Except Fault α} {f : α → Except Fault β} {b : β}
    (h : r >>= f = .ok b) : ∃ a, r = .ok a ∧ f a = .ok b := by
  cases r with
  | error e => cases h
  | ok a => exact ⟨a, rfl, h⟩

/-! ### Files -/

theorem toFault_recordable (path : String) (e : FileFault) : Recordable (e.toFault path) := rfl

theorem textOf_recordable (charset : Charset) (bytes : List UInt8) :
    FaultsAre Recordable (Tree.textOf charset bytes) := by
  unfold Tree.textOf
  split
  · exact .pure _
  · exact .throw rfl

theorem noHomeFault_recordable (p : Path) : Recordable (noHomeFault p) := by
  unfold noHomeFault
  split
  · exact toFault_recordable p.render _
  · rfl

/-- What is in the way of the text of a file may be recorded. -/
theorem readText_recordable (t : Tree) (cwd : Location) (charset : Charset) (p : Path) :
    FaultsAre Recordable (t.readText cwd charset p) :=
  .bind (.mapError (toFault_recordable p.render)) fun bytes _ => textOf_recordable charset bytes

namespace Resource

/-! ### Servers -/

namespace Http

theorem readPort_recordable (scheme : Option String) (port : String) :
    FaultsAre Recordable (readPort scheme port) := by
  unfold readPort
  split_ifs
  · exact .pure _
  · split
    · exact .pure _
    · exact .throw rfl

theorem readAuthority_recordable (scheme : Option String) (s : List Char) :
    FaultsAre Recordable (readAuthority scheme s) :=
  .bind (readPort_recordable scheme _) fun _ _ => .pure _

theorem readUrl_recordable (s : String) : FaultsAre Recordable (readUrl s) := by
  unfold readUrl
  cases hiddenChar? s with
  | some found => exact .throw_bind rfl
  | none =>
    dsimp only
    -- What is left is the choice between an address with an authority and one without.
    split
    · exact .bind (.map (readAuthority_recordable _ _)) fun _ _ => .pure _
    · exact .bind (.pure none) fun _ _ => .pure _

theorem follow_recordable (table : Table) (count : Nat) (url : Url) :
    FaultsAre Recordable (follow table count url) := by
  fun_induction follow table count url with
  | case1 => exact .throw rfl
  | case2 _ _ _ _ _ _ _ ih => exact .bind (.mapError fun _ => rfl) fun next _ => ih next
  | case3 => exact .throw rfl
  | case4 => exact .pure _

/-- What is in the way of the text of a server may be recorded. -/
theorem read_recordable (table : Table) (address : String) :
    FaultsAre Recordable (read table address) := by
  refine .bind (readUrl_recordable address) fun url _ =>
    .bind (follow_recordable table maxRedirects url) fun (_, reply) _ => ?_
  show FaultsAre Recordable (if isSuccess reply.status then _ else _)
  split_ifs
  · exact .pure _
  · exact .throw rfl

end Http

/-! ### Packages -/

namespace Package

/-- A file at a location raises a fault by its first statement. -/
def RaisedAt (s : Surroundings) (e : Fault) (l : Location) : Prop :=
  ∃ text, s.readText (.utf8 false) (.ofLocation l) = .ok text ∧ textFault? text = some e

/-- A fault that is raised on the way along a dotted name: by the start file of a package, or by a
module. -/
def Raises (s : Surroundings) (name : String) (e : Fault) : Prop :=
  ∃ before part, before ++ [part] <+: cut '.' name ∧
    (RaisedAt s e (s.directory ++ before ++ [part] ++ [startFile]) ∨
      RaisedAt s e (s.directory ++ before ++ [part ++ moduleEnding]))

theorem run_faults (s : Surroundings) (l : Location) :
    FaultsAre (RaisedAt s · l) (run s l) := by
  unfold run
  intro e he
  cases hread : s.readText (.utf8 false) (.ofLocation l) with
  | error _ =>
    rw [hread] at he
    cases he
  | ok text =>
    rw [hread] at he
    simp only [Except.toOption, Option.bind_some] at he
    split at he
    next e' hraised =>
      obtain rfl := Except.error.inj he
      exact ⟨text, hread, hraised⟩
    next => cases he

/-- The directory that a part of a name stands for is the one of its name. -/
theorem findPart_package {s : Surroundings} {dir d : Location} {name part : String}
    (h : findPart s dir name part = .ok (.package d)) : d = dir ++ [part] := by
  simp only [findPart] at h
  split_ifs at h
  · obtain ⟨-, -, hd⟩ := ok_of_bind h
    cases hd
    rfl
  · obtain ⟨-, -, hd⟩ := ok_of_bind h
    cases hd
  · cases h
    rfl

theorem findPart_faults (s : Surroundings) (dir : Location) (name part : String) :
    FaultsAre (fun e => Recordable e ∨ RaisedAt s e (dir ++ [part] ++ [startFile]) ∨
      RaisedAt s e (dir ++ [part ++ moduleEnding])) (findPart s dir name part) := by
  simp only [findPart]
  split_ifs
  · exact .throw (.inl rfl)
  · exact .bind ((run_faults s _).mono fun _ h => .inr (.inl h)) fun _ _ => .pure _
  · exact .bind ((run_faults s _).mono fun _ h => .inr (.inr h)) fun _ _ => .pure _
  · exact .pure _
  · exact .throw (.inl rfl)

theorem findParts_faults (s : Surroundings) (name : String) {parts : List String} :
    ∀ {before : List String} {found : Module}, before ++ parts = cut '.' name →
      (∀ dir, found = .package dir → dir = s.directory ++ before) →
      FaultsAre (fun e => Recordable e ∨ Raises s name e) (findParts s before parts found) := by
  induction parts with
  | nil => exact fun _ _ => .pure _
  | cons part parts ih =>
    intro before found hparts hfound
    cases found with
    | single => exact .throw (.inl rfl)
    | package dir =>
      obtain rfl := hfound dir rfl
      have hparts' : before ++ [part] ++ parts = cut '.' name := by
        rw [← hparts, List.append_assoc, List.singleton_append]
      refine .bind ((findPart_faults s _ _ part).mono fun e he => he.imp_right fun hraised =>
        ⟨before, part, ⟨parts, hparts'⟩, hraised⟩) fun next hnext => ih hparts' ?_
      rintro d rfl
      rw [findPart_package hnext, List.append_assoc]

/-- What no stage may record is raised on the way along the name of a package. -/
theorem find_faults (s : Surroundings) (name : String) :
    FaultsAre (fun e => Recordable e ∨ Raises s name e) (find s name) := by
  have hway : FaultsAre (fun e => Recordable e ∨ Raises s name e)
      (findParts s [] (cut '.' name) (.package s.directory)) :=
    findParts_faults s name rfl fun dir hdir => by
      rw [List.append_nil, Module.package.inj hdir]
  unfold find
  split_ifs
  · exact .throw_bind (.inl rfl)
  · refine .bind hway fun found _ => ?_
    cases found with
    | package dir => exact .pure _
    | single => exact .throw (.inl rfl)

end Package

/-! ### Addresses -/

namespace Address

/-- The fault of an address that cannot be split: neither that of a resource that could not be had
nor one that no stage may record. -/
def IsSplitFault (e : Fault) : Prop :=
  ∃ message, e = fault message

theorem IsSplitFault.isFetch {e : Fault} (h : IsSplitFault e) : e.isFetch = false := by
  obtain ⟨message, rfl⟩ := h
  rfl

theorem IsSplitFault.recordable {e : Fault} (h : IsSplitFault e) : Recordable e := by
  obtain ⟨message, rfl⟩ := h
  rfl

theorem checkBrackets_faults (authority : List Char) :
    FaultsAre IsSplitFault (checkBrackets authority) := by
  unfold checkBrackets
  split
  · exact .pure _
  · dsimp only
    split_ifs
    · exact .pure _
    · exact .throw ⟨_, rfl⟩
    · exact .throw ⟨_, rfl⟩
    · exact .pure _
    · exact .throw ⟨_, rfl⟩
  · exact .throw ⟨_, rfl⟩

theorem checkSigns_faults (authority : List Char) :
    FaultsAre IsSplitFault (checkSigns authority) := by
  unfold checkSigns
  split_ifs
  · exact .throw ⟨_, rfl⟩
  · exact .pure _

theorem ofText_faults (s : String) : FaultsAre IsSplitFault (ofText s) :=
  .bind (checkBrackets_faults _) fun _ _ => .bind (checkSigns_faults _) fun _ _ => .pure _

theorem mem_of_mem_clean {cs : List Char} {c : Char} (h : c ∈ clean cs) : c ∈ cs :=
  List.dropWhile_subset _ (List.mem_filter.mp h).1

theorem mem_of_mem_splitScheme {cs : List Char} {c : Char} (h : c ∈ (splitScheme cs).2) :
    c ∈ cs := by
  unfold splitScheme at h
  split at h
  next rest hrest =>
    dsimp only at h
    split_ifs at h
    · exact List.dropWhile_subset _ (hrest ▸ List.mem_cons_of_mem _ h)
    · exact h
  next => exact h

theorem mem_of_mem_splitAuthority {cs : List Char} {c : Char} (h : c ∈ (splitAuthority cs).1) :
    c ∈ cs := by
  unfold splitAuthority at h
  split at h
  next rest => exact List.mem_cons_of_mem _ (List.mem_cons_of_mem _ (List.takeWhile_subset _ h))
  next => cases h

theorem checkBrackets_of_plain {authority : List Char} (ho : '[' ∉ authority)
    (hc : ']' ∉ authority) : checkBrackets authority = .ok () := by
  unfold checkBrackets
  rw [Bool.eq_false_iff.mpr fun h => ho (List.contains_iff_mem.mp h),
    Bool.eq_false_iff.mpr fun h => hc (List.contains_iff_mem.mp h)]

theorem checkSigns_of_plain {authority : List Char} (h : ∀ c ∈ authority, c ∉ signLikes) :
    checkSigns authority = .ok () := by
  unfold checkSigns
  rw [if_neg]
  intro hany
  obtain ⟨c, hc, hsign⟩ := List.any_eq_true.mp hany
  exact h c hc (List.contains_iff_mem.mp hsign)

/-- A text without brackets, and without characters that stand for signs with a meaning in an
authority, can be split. -/
theorem ofText_of_plain {s : String} (ho : '[' ∉ s.toList) (hc : ']' ∉ s.toList)
    (hsigns : ∀ c ∈ s.toList, c ∉ signLikes) : ∃ a, ofText s = .ok a := by
  have hmem : ∀ c ∈ (splitAuthority (splitScheme (clean s.toList)).2).1, c ∈ s.toList :=
    fun c h => mem_of_mem_clean (mem_of_mem_splitScheme (mem_of_mem_splitAuthority h))
  have hbrackets := checkBrackets_of_plain (ho <| hmem _ ·) (hc <| hmem _ ·)
  have hsign := checkSigns_of_plain fun c h => hsigns c (hmem c h)
  simp only [ofText, hbrackets, hsign]
  exact ⟨_, rfl⟩

end Address

/-! ### Loaders -/

theorem readPath_recordable (l : Loader) (s : Surroundings) (p : Path) :
    FaultsAre Recordable (l.readPath s p) := by
  unfold Loader.readPath
  split
  · exact readText_recordable s.files s.directory _ p
  · exact .bind (.mapError (toFault_recordable p.render)) fun _ _ => .throw rfl

theorem readFile_recordable (l : Loader) (s : Surroundings) (a : Address) (url : String) :
    FaultsAre Recordable (l.readFile s a url) := by
  unfold Loader.readFile
  split
  · exact readPath_recordable l s _
  · exact .throw (noHomeFault_recordable _)

/-- What no stage may record is raised on the way to the package. -/
theorem readPackage_faults (l : Loader) (s : Surroundings) (a : Address) (url : String) :
    FaultsAre (fun e => Recordable e ∨ Package.Raises s a.authority e) (l.readPackage s a url) := by
  unfold Loader.readPackage
  dsimp only
  split_ifs
  · exact .throw_bind (.inl rfl)
  · exact .bind (Package.find_faults s a.authority) fun dir _ =>
      (readPath_recordable l s _).mono fun _ => .inl

namespace Loader

/-- What an address is read by, in one of the ways to read it. -/
def readBy (l : Loader) (s : Surroundings) (server : Handler) (a : Address) (url : String) :
    Route → Except Fault String
  | .handler h => h url
  | .server => server url
  | .package => l.readPackage s a url
  | .file => l.readFile s a url
  | .none => .error (.unfetched url (some s!"Unsupported URI scheme '{a.scheme}' in '{url}'"))

/-- **The result** of reading an address, when `server` says what comes of asking a server. -/
def readFrom (l : Loader) (s : Surroundings) (server : Handler) (url : String) :
    Except Fault String :=
  if allBlank url then .error (.unfetched url (some "Resource URI must not be blank"))
  else do
    let a ← Address.ofText url
    (l.readBy s server a url (l.route a.scheme)).mapError (wrap url)

/-- A loader reads from the servers around it. -/
theorem fetch_result (l : Loader) (s : Surroundings) (url : String) :
    (l.fetch s url).result = l.readFrom s (Http.read s.web) url := by
  unfold fetch readFrom
  split_ifs
  · rfl
  · cases Address.ofText url with
    | error e => rfl
    | ok a =>
      show _ = (l.readBy s (Http.read s.web) a url (l.route a.scheme)).mapError (wrap url)
      dsimp only
      cases l.route a.scheme <;> rfl

/-- A text is not blank and spells an address that is read in one of the ways. -/
def Routed (l : Loader) (url : String) (a : Address) (r : Route) : Prop :=
  allBlank url = false ∧ Address.ofText url = .ok a ∧ l.route a.scheme = r

theorem readFrom_of_routed {l : Loader} {url : String} {a : Address} {r : Route}
    (h : l.Routed url a r) (s : Surroundings) (server : Handler) :
    l.readFrom s server url = (l.readBy s server a url r).mapError (wrap url) := by
  obtain ⟨hblank, ha, rfl⟩ := h
  rw [readFrom, if_neg (ne_true_of_eq_false hblank), ha]
  rfl

/-- The fault of an address that cannot be split is not wrapped. -/
theorem readFrom_of_unsplit {url : String} {e : Fault} (hblank : allBlank url = false)
    (he : Address.ofText url = .error e) (l : Loader) (s : Surroundings) (server : Handler) :
    l.readFrom s server url = .error e := by
  rw [readFrom, if_neg (ne_true_of_eq_false hblank), he]
  rfl

/-! ### Reporting -/

/-- What gets out of reading an address instead of a text is reported: it says that a resource could
not be had, or it is what no stage may record and a handler raised it. -/
def Reports (l : Loader) (url : String) (r : Except Fault String) : Prop :=
  FaultsAre (fun e => e.isFetch = true ∨
    e.isFatal = true ∧ ∃ a h, l.Routed url a (.handler h) ∧ h url = .error e) r

theorem recordable_of_isFetch {e : Fault} (h : e.isFetch = true) : Recordable e := by
  cases e with
  | fetch => rfl
  | _ => cases h

theorem wrap_of_isFetch {e : Fault} (h : e.isFetch = true) (url : String) : wrap url e = e := by
  cases e with
  | fetch => rfl
  | _ => cases h

theorem wrap_of_isFatal {e : Fault} (h : e.isFatal = true) (url : String) : wrap url e = e := by
  cases e with
  | unrecoverable | memory | signal => rfl
  | _ => cases h

theorem wrap_of_ordinary {e : Fault} (hfetch : e.isFetch = false) (hfatal : e.isFatal = false)
    (url : String) :
    wrap url e = .fetch url (s!"Unable to load resource '{url}': " ++ e.message) (some e) := by
  cases e with
  | fetch => cases hfetch
  | unrecoverable | memory | signal => cases hfatal
  | _ => rfl

/-- What is not wrapped as a resource that could not be had, no stage may record. -/
theorem wrap_cases (url : String) (e : Fault) :
    (wrap url e).isFetch = true ∨ e.isFatal = true ∧ wrap url e = e := by
  cases hfetch : e.isFetch with
  | true =>
    rw [wrap_of_isFetch hfetch]
    exact .inl hfetch
  | false =>
    cases hfatal : e.isFatal with
    | true => exact .inr ⟨rfl, wrap_of_isFatal hfatal url⟩
    | false =>
      rw [wrap_of_ordinary hfetch hfatal]
      exact .inl rfl

/-- What is not reported by a loader is the fault of an address that it cannot split, or what it
reads from raised it and no stage may record it. -/
theorem readFrom_faults (l : Loader) (s : Surroundings) (server : Handler) (url : String) :
    FaultsAre (fun e => e.isFetch = true ∨ allBlank url = false ∧ Address.ofText url = .error e ∨
      e.isFatal = true ∧ ∃ a r, l.Routed url a r ∧ l.readBy s server a url r = .error e)
      (l.readFrom s server url) := by
  cases hblank : allBlank url with
  | true =>
    rw [readFrom, if_pos hblank]
    exact .throw (.inl rfl)
  | false =>
    cases ha : Address.ofText url with
    | error e =>
      rw [readFrom_of_unsplit hblank ha]
      exact .throw (.inr (.inl ⟨rfl, rfl⟩))
    | ok a =>
      have hrouted : l.Routed url a (l.route a.scheme) := ⟨hblank, ha, rfl⟩
      rw [readFrom_of_routed hrouted]
      cases hread : l.readBy s server a url (l.route a.scheme) with
      | ok text => exact .pure text
      | error e =>
        refine .throw ?_
        rcases wrap_cases url e with hfetch | ⟨hfatal, hsame⟩
        · exact .inl hfetch
        · rw [hsame]
          exact .inr (.inr ⟨hfatal, a, _, hrouted, hread⟩)

theorem Routed.route_eq {l : Loader} {url : String} {a a' : Address} {r r' : Route}
    (h : l.Routed url a r) (h' : l.Routed url a' r') : r = r' := by
  obtain ⟨-, ha, rfl⟩ := h
  obtain ⟨-, ha', rfl⟩ := h'
  rw [Except.ok.inj (ha.symm.trans ha')]

/-- **What gets out is reported** exactly if the address can be split, and what is read from, other
than a handler, raises nothing that no stage may record. -/
theorem reports_iff (l : Loader) (s : Surroundings) (server : Handler) (url : String) :
    l.Reports url (l.readFrom s server url) ↔
      (allBlank url = true ∨ ∃ a, Address.ofText url = .ok a) ∧
      ∀ a r, l.Routed url a r → (∀ h, r ≠ .handler h) →
        FaultsAre Recordable (l.readBy s server a url r) := by
  constructor
  · intro hreports
    constructor
    · cases hblank : allBlank url with
      | true => exact .inl rfl
      | false =>
        cases ha : Address.ofText url with
        | ok a => exact .inr ⟨a, rfl⟩
        | error e =>
          have hsplit := Address.ofText_faults url e ha
          rcases hreports e (readFrom_of_unsplit hblank ha l s server) with hfetch | ⟨hfatal, -⟩
          · exact absurd hfetch (ne_true_of_eq_false hsplit.isFetch)
          · exact absurd hfatal (ne_true_of_eq_false hsplit.recordable)
    · intro a r hrouted hr e he
      -- A fault that no stage may record would get out, and no handler was asked.
      refine Bool.eq_false_iff.mpr fun hfatal => ?_
      have hresult : l.readFrom s server url = .error e := by
        rw [readFrom_of_routed hrouted, he]
        exact congrArg Except.error (wrap_of_isFatal hfatal url)
      rcases hreports e hresult with hfetch | ⟨-, a', h, hrouted', -⟩
      · exact absurd hfatal (ne_true_of_eq_false (recordable_of_isFetch hfetch))
      · exact hr h (hrouted.route_eq hrouted')
  · rintro ⟨hsplit, hquiet⟩ e he
    rcases readFrom_faults l s server url e he with
      hfetch | ⟨hblank, ha⟩ | ⟨hfatal, a, r, hrouted, hread⟩
    · exact .inl hfetch
    · rcases hsplit with hblank' | ⟨a, ha'⟩
      · rw [hblank] at hblank'
        cases hblank'
      · rw [ha] at ha'
        cases ha'
    · cases r with
      | handler h => exact .inr ⟨hfatal, a, h, hrouted, hread⟩
      | _ => exact absurd hfatal (ne_true_of_eq_false (hquiet a _ hrouted nofun e hread))

/-- **Reading an address.** Whatever comes of asking a server, what gets out is reported exactly if
the address is blank or can be split, and neither the server nor the package that is read from
raises what no stage may record; in a package that is done on the way along its name. A handler's
text is the result; its faults get out as they are if they say that a resource could not be had or
if no stage may record them, and else they are the cause of a fault that does. The fault of an
address that cannot be split gets out as it is; one without brackets and without characters like
signs can be. -/
theorem fetch_reports_iff (l : Loader) (s : Surroundings) (server : Handler) (url : String) :
    (l.fetch s url).result = l.readFrom s (Http.read s.web) url ∧
    FaultsAre Recordable (Http.read s.web url) ∧
    (l.Reports url (l.readFrom s server url) ↔
      (allBlank url = true ∨ ∃ a, Address.ofText url = .ok a) ∧
      (∀ a, l.Routed url a .server → FaultsAre Recordable (server url)) ∧
      ∀ a, l.Routed url a .package → FaultsAre Recordable (l.readPackage s a url)) ∧
    (∀ a, FaultsAre (fun e => Recordable e ∨ Package.Raises s a.authority e)
      (l.readPackage s a url)) ∧
    (∀ a h, l.Routed url a (.handler h) →
      (∀ text, h url = .ok text → l.readFrom s server url = .ok text) ∧
      ∀ e, h url = .error e →
        (e.isFetch = true ∨ e.isFatal = true → l.readFrom s server url = .error e) ∧
        (e.isFetch = false → e.isFatal = false → l.readFrom s server url =
          .error (.fetch url (s!"Unable to load resource '{url}': " ++ e.message) (some e)))) ∧
    (∀ e, allBlank url = false → Address.ofText url = .error e →
      l.readFrom s server url = .error e ∧ e.isFetch = false ∧ e.isFatal = false) ∧
    ('[' ∉ url.toList → ']' ∉ url.toList → (∀ c ∈ url.toList, c ∉ Address.signLikes) →
      ∃ a, Address.ofText url = .ok a) := by
  refine ⟨l.fetch_result s url, Http.read_recordable s.web url, ?_,
    fun a => readPackage_faults l s a url, ?_, ?_, Address.ofText_of_plain⟩
  · rw [reports_iff]
    refine and_congr_right fun _ => ⟨fun hquiet =>
      ⟨fun a ha => hquiet a _ ha nofun, fun a ha => hquiet a _ ha nofun⟩, ?_⟩
    rintro ⟨hserver, hpackage⟩ a r hrouted hr
    -- Files and unknown schemes raise nothing that no stage may record.
    cases r with
    | handler h => exact absurd rfl (hr h)
    | server => exact hserver a hrouted
    | package => exact hpackage a hrouted
    | file => exact readFile_recordable l s a url
    | none => exact .throw rfl
  · intro a h hrouted
    rw [readFrom_of_routed hrouted]
    refine ⟨fun text htext => ?_, fun e he => ⟨?_, fun hfetch hfatal => ?_⟩⟩
    · rw [readBy, htext]
      rfl
    · rw [readBy, he]
      rintro (hfetch | hfatal)
      · exact congrArg Except.error (wrap_of_isFetch hfetch url)
      · exact congrArg Except.error (wrap_of_isFatal hfatal url)
    · rw [readBy, he]
      exact congrArg Except.error (wrap_of_ordinary hfetch hfatal url)
  · intro e hblank he
    have hsplit := Address.ofText_faults url e he
    exact ⟨readFrom_of_unsplit hblank he l s server, hsplit.isFetch, hsplit.recordable⟩

/-- The fault of a bracket that stays open gets out of a loader without handlers as it is. -/
theorem fetch_of_open_bracket :
    (fetch { timeout := defaultTimeout } {} "http://[::1").result =
      .error (.failure .value "Invalid IPv6 URL") ∧
    ¬ Reports { timeout := defaultTimeout } "http://[::1"
      (fetch { timeout := defaultTimeout } {} "http://[::1").result := by
  have hresult : (fetch { timeout := defaultTimeout } {} "http://[::1").result =
      .error (.failure .value "Invalid IPv6 URL") := by
    rfl
  refine ⟨hresult, fun hreports => ?_⟩
  rcases hreports _ hresult with h | ⟨h, -⟩ <;> cases h

end Loader

end Resource

end ItemCatalog
