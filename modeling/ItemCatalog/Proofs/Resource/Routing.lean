import ItemCatalog.Proofs.Resource.Reporting

/-! # Routing: which reader an address goes to

An address with a scheme goes to the handler that was registered last under the name of the scheme,
in whatever case both are written; it is the only one that is asked, and nothing else is read. If
there is none, the address goes to the reader that is built in for the scheme, and an address of any
other scheme is refused without anything being read (`scheme_routing`). -/

namespace ItemCatalog.Resource

open Text

/-! ### Schemes -/

/-- The name of a scheme: a letter, and letters, digits and three signs after it. -/
structure SchemeName where
  first : Char
  rest : List Char
  first_isAlpha : first.isAlpha = true
  rest_isSchemeChar : ∀ c ∈ rest, Address.isSchemeChar c = true

namespace SchemeName

/-- The characters of a name. -/
def chars (s : SchemeName) : List Char :=
  s.first :: s.rest

/-- The name in small letters. -/
def key (s : SchemeName) : String :=
  lower (String.ofList s.chars)

/-- The address that goes on with a text after the scheme and a colon. -/
def address (s : SchemeName) (tail : String) : String :=
  String.ofList (s.chars ++ ':' :: tail.toList)

end SchemeName

/-- A text of printable characters of ASCII without brackets. -/
def IsPlain (tail : String) : Prop :=
  ∀ c ∈ tail.toList, 0x20 ≤ c.toNat ∧ c.toNat ≤ 0x7e ∧ c ≠ '[' ∧ c ≠ ']'

instance (tail : String) : Decidable (IsPlain tail) :=
  List.decidableBAll _ _

/-- The characters of a scheme stand between the blank and the end of ASCII. -/
theorem toNat_of_isSchemeChar {c : Char} (h : Address.isSchemeChar c = true) :
    0x20 < c.toNat ∧ c.toNat < 0x7f := by
  unfold Address.isSchemeChar at h
  delta Char.isAlphanum Char.isAlpha Char.isUpper Char.isLower Char.isDigit at h
  simp only [Bool.or_eq_true, Bool.and_eq_true, decide_eq_true_eq, beq_iff_eq] at h
  change (((((65 ≤ c.toNat ∧ c.toNat ≤ 90) ∨ (97 ≤ c.toNat ∧ c.toNat ≤ 122)) ∨
    (48 ≤ c.toNat ∧ c.toNat ≤ 57)) ∨ c = '+') ∨ c = '-') ∨ c = '.' at h
  rcases h with ((((h | h) | h) | rfl) | rfl) | rfl
  · omega
  · omega
  · omega
  all_goals decide

namespace SchemeName

variable (s : SchemeName)

theorem isSchemeChar_of_mem {c : Char} (h : c ∈ s.chars) : Address.isSchemeChar c = true := by
  rcases List.mem_cons.mp h with rfl | h
  · simp [Address.isSchemeChar, Char.isAlphanum, s.first_isAlpha]
  · exact s.rest_isSchemeChar c h

theorem toNat_of_mem {c : Char} (h : c ∈ s.chars) : 0x20 < c.toNat ∧ c.toNat < 0x7f :=
  toNat_of_isSchemeChar (s.isSchemeChar_of_mem h)

theorem key_eq : s.key = String.ofList (s.chars.map Char.toLower) := by
  refine lower_of_ascii fun c hc => ?_
  have hbounds := s.toNat_of_mem hc
  omega

/-- Only a name of one letter has a key of one letter. -/
theorem length_key : s.key.length = s.rest.length + 1 := by
  rw [key_eq, String.length_ofList, List.length_map, chars, List.length_cons]

/-- Nothing in such an address is left out before it is split. -/
theorem clean_address {tail : String} (h : IsPlain tail) :
    Address.clean (s.chars ++ ':' :: tail.toList) = s.chars ++ ':' :: tail.toList := by
  have hfirst : ¬ s.first.toNat ≤ 32 := by
    have hbounds := s.toNat_of_mem List.mem_cons_self
    omega
  rw [Address.clean, chars, List.cons_append, List.dropWhile_cons_of_neg (by simpa using hfirst),
    ← List.cons_append, ← chars, List.filter_eq_self]
  intro c hc
  have hlow : 0x20 ≤ c.toNat := by
    rcases List.mem_append.mp hc with hc | hc
    · have hbounds := s.toNat_of_mem hc
      omega
    · rcases List.mem_cons.mp hc with rfl | hc
      · decide
      · exact (h c hc).1
  have hne : ∀ x : Char, x.toNat < 0x20 → c ≠ x := by
    rintro x hx rfl
    omega
  simp [hne '\t' (by decide), hne '\n' (by decide), hne '\r' (by decide)]

theorem splitScheme_address (tail : List Char) :
    Address.splitScheme (s.chars ++ ':' :: tail) = (s.chars.map Char.toLower, tail) := by
  have htake : (s.chars ++ ':' :: tail).takeWhile Address.isSchemeChar = s.chars := by
    rw [List.takeWhile_append_of_pos fun c hc => s.isSchemeChar_of_mem hc,
      List.takeWhile_cons_of_neg (by decide), List.append_nil]
  have hdrop : (s.chars ++ ':' :: tail).dropWhile Address.isSchemeChar = ':' :: tail := by
    rw [List.dropWhile_append_of_pos fun c hc => s.isSchemeChar_of_mem hc,
      List.dropWhile_cons_of_neg (by decide)]
  have hfirst : s.chars.head?.any Char.isAlpha = true := s.first_isAlpha
  rw [Address.splitScheme, htake, hdrop]
  simp only [hfirst, if_true]

/-- **An address with a scheme** can be split, and its scheme is the name in small letters. -/
theorem ofText_address {tail : String} (h : IsPlain tail) :
    ∃ a, Address.ofText (s.address tail) = .ok a ∧ a.scheme = s.key := by
  have hmem : ∀ c ∈ (Address.splitAuthority tail.toList).1, c ∈ tail.toList :=
    fun c => Address.mem_of_mem_splitAuthority
  have hbrackets : Address.checkBrackets (Address.splitAuthority tail.toList).1 = .ok () :=
    Address.checkBrackets_of_plain (fun ho => (h _ (hmem _ ho)).2.2.1 rfl)
      fun hc => (h _ (hmem _ hc)).2.2.2 rfl
  have hsigns : Address.checkSigns (Address.splitAuthority tail.toList).1 = .ok () := by
    refine Address.checkSigns_of_plain fun c hc hsign => ?_
    have hbeyond : Address.signLikes.all (0x7e < ·.toNat) = true := by decide +kernel
    have hlow := (h c (hmem c hc)).2.1
    have hhigh := of_decide_eq_true (List.all_eq_true.mp hbeyond c hsign)
    omega
  rw [Address.ofText, address, String.toList_ofList, s.clean_address h,
    s.splitScheme_address tail.toList]
  simp only [hbrackets, hsigns]
  exact ⟨_, rfl, s.key_eq.symm⟩

theorem allBlank_address (tail : String) : allBlank (s.address tail) = false := by
  have hblank : isBlank ':' = false := by decide
  rw [allBlank, address, String.toList_ofList, List.all_append, List.all_cons, hblank,
    Bool.false_and, Bool.and_false]

end SchemeName

namespace Loader

/-! ### Registrations -/

/-- A loader after handlers have been registered, one after the other. -/
def registerAll (l : Loader) (calls : List (String × Handler)) : Loader :=
  calls.foldl (fun l c => l.register c.1 c.2) l

/-- The last registration under the name of a scheme, in any case, is that of a handler. -/
def ServedBy (calls : List (String × Handler)) (s : SchemeName) (h : Handler) : Prop :=
  ∃ before name after, calls = before ++ (name, h) :: after ∧ lower name = s.key ∧
    ∀ c ∈ after, lower c.1 ≠ s.key

/-- Nothing was registered under the name of a scheme, in any case. -/
def Unserved (calls : List (String × Handler)) (s : SchemeName) : Prop :=
  ∀ c ∈ calls, lower c.1 ≠ s.key

/-- Registering changes nothing but the handlers, by induction on the registrations. -/
theorem registerAll_eq (l : Loader) (calls : List (String × Handler)) :
    l.registerAll calls =
      { l with handlers := (calls.map fun c => (lower c.1, c.2)).reverse ++ l.handlers } := by
  induction calls generalizing l with
  | nil => rfl
  | cons c calls ih =>
    rw [registerAll, List.foldl_cons]
    refine (ih _).trans ?_
    simp [register]

theorem lookup_of_unserved {calls : List (String × Handler)} {s : SchemeName}
    (h : Unserved calls s) :
    (calls.map fun c => (lower c.1, c.2)).reverse.lookup s.key = none := by
  rw [List.lookup_eq_none_iff]
  intro e he
  obtain ⟨c, hc, rfl⟩ := List.mem_map.mp (List.mem_reverse.mp he)
  simpa using (h c hc).symm

theorem lookup_of_servedBy {calls : List (String × Handler)} {s : SchemeName} {h : Handler}
    (hserved : ServedBy calls s h) :
    (calls.map fun c => (lower c.1, c.2)).reverse.lookup s.key = some h := by
  obtain ⟨before, name, after, rfl, hname, hafter⟩ := hserved
  rw [List.map_append, List.map_cons, List.reverse_append, List.reverse_cons, List.append_assoc,
    List.lookup_append, lookup_of_unserved hafter, List.singleton_append, List.lookup_cons, hname,
    beq_self_eq_true]
  rfl

section Routes

variable {l : Loader} (hnew : l.handlers = []) {calls : List (String × Handler)} {s : SchemeName}
include hnew

theorem route_of_servedBy {h : Handler} (hserved : ServedBy calls s h) :
    (l.registerAll calls).route s.key = .handler h := by
  rw [registerAll_eq, hnew, List.append_nil, route, lookup_of_servedBy hserved]

theorem route_of_unserved (hunserved : Unserved calls s) :
    (l.registerAll calls).route s.key = l.route s.key := by
  rw [registerAll_eq, route, route, hnew, List.append_nil, lookup_of_unserved hunserved]
  rfl

theorem route_of_new (scheme : String) : l.route scheme =
    if scheme = "http" || scheme = "https" then .server
    else if scheme = "classpath" then .package
    else if scheme = "file" || scheme.length ≤ 1 then .file
    else .none := by
  rw [route, hnew]
  rfl

/-- No other built-in scheme has a single letter. -/
theorem route_of_letter (hletter : s.rest = []) : l.route s.key = .file := by
  have hlength : s.key.length = 1 := by
    rw [s.length_key, hletter, List.length_nil]
  have hne : ∀ word : String, word.length ≠ 1 → s.key ≠ word := by
    rintro word hword rfl
    exact hword hlength
  rw [route_of_new hnew]
  simp [hne "http" (by decide), hne "https" (by decide), hne "classpath" (by decide), hlength]

theorem route_of_other (hother : s.key ∉ ["http", "https", "classpath", "file"])
    (hletters : s.rest ≠ []) : l.route s.key = .none := by
  have hlong : ¬ s.key.length ≤ 1 := by
    have hrest := List.length_pos_iff.mpr hletters
    have hlength := s.length_key
    omega
  simp only [List.mem_cons, List.not_mem_nil, or_false, not_or] at hother
  rw [route_of_new hnew]
  simp [hother, hlong]

end Routes

/-! ### Reading -/

/-- What is said when an address is read. -/
def announced (url : String) : List Log.Record :=
  [Log.resources.debug s!"Fetching resource {url}"]

/-- What comes of an address that is read in one of the ways. -/
def fetchedBy (l : Loader) (around : Surroundings) (a : Address) (url : String) : Route → Fetch
  | .handler h => { result := (h url).mapError (wrap url), requests := [url], log := announced url }
  | .server =>
    { result := (Http.read around.web url).mapError (wrap url), timeouts := [l.timeout],
      log := announced url }
  | .package => { result := (l.readPackage around a url).mapError (wrap url), log := announced url }
  | .file => { result := (l.readFile around a url).mapError (wrap url), log := announced url }
  | .none =>
    { result := .error (.unfetched url (some s!"Unsupported URI scheme '{a.scheme}' in '{url}'")),
      log := announced url }

/-- Only the route depends on what was registered. -/
theorem fetchedBy_registerAll (l : Loader) (calls : List (String × Handler))
    (around : Surroundings) (a : Address) (url : String) (r : Route) :
    (l.registerAll calls).fetchedBy around a url r = l.fetchedBy around a url r := by
  rw [registerAll_eq]
  cases r <;> rfl

/-- A fault that is worded has no cause and keeps its wording. -/
theorem unfetched_eq (url : String) {message : String} (h : message ≠ "") :
    Fault.unfetched url (some message) = .fetch url message none := by
  rw [Fault.unfetched, Option.filter_some, if_pos (decide_eq_true h), Option.getD_some]

theorem unsupported_ne (scheme url : String) :
    s!"Unsupported URI scheme '{scheme}' in '{url}'" ≠ "" := by
  show "Unsupported URI scheme '" ++ scheme ++ "' in '" ++ url ++ "'" ≠ ""
  simp

theorem fetch_of_routed {l : Loader} {url : String} {a : Address} {r : Route}
    (h : l.Routed url a r) (around : Surroundings) :
    l.fetch around url = l.fetchedBy around a url r := by
  obtain ⟨hblank, ha, rfl⟩ := h
  rw [fetch, if_neg (ne_true_of_eq_false hblank), ha]
  dsimp only
  cases l.route a.scheme <;> rfl

/-- **Routing by schemes.** Handlers were registered with a new loader, and an address has a scheme
and goes on with plain characters. If some registration was under the name of the scheme, in any
case, the handler of the last one is asked for the address, once and for nothing else; its text is
the result, and whatever is around makes no difference. If there was none, the built-in reader of
the scheme reads the address: from a server, from a package or from a file, the last also for
schemes of one letter. An address of any other scheme is refused, whatever is around. -/
theorem scheme_routing {l : Loader} (hnew : l.handlers = []) (calls : List (String × Handler))
    (s : SchemeName) {tail : String} (htail : IsPlain tail) :
    let url := s.address tail
    let fetched := fun around => (l.registerAll calls).fetch around url
    ∃ a, Address.ofText url = .ok a ∧
    (∀ h, ServedBy calls s h → ∀ around,
      fetched around =
        { result := (h url).mapError (wrap url), requests := [url], timeouts := [],
          log := announced url } ∧
      ∀ text, h url = .ok text → (fetched around).result = .ok text) ∧
    (Unserved calls s → ∀ around,
      (s.key = "http" ∨ s.key = "https" → fetched around =
        { result := (Http.read around.web url).mapError (wrap url), requests := [],
          timeouts := [l.timeout], log := announced url }) ∧
      (s.key = "classpath" → fetched around =
        { result := (l.readPackage around a url).mapError (wrap url), requests := [],
          timeouts := [], log := announced url }) ∧
      (s.key = "file" ∨ s.rest = [] → fetched around =
        { result := (l.readFile around a url).mapError (wrap url), requests := [],
          timeouts := [], log := announced url }) ∧
      (s.key ∉ ["http", "https", "classpath", "file"] → s.rest ≠ [] → fetched around =
        { result := .error (.fetch url s!"Unsupported URI scheme '{s.key}' in '{url}'" none),
          requests := [], timeouts := [], log := announced url })) := by
  intro url fetched
  obtain ⟨a, ha, hkey⟩ := s.ofText_address htail
  have hrouted : ∀ r, (l.registerAll calls).route s.key = r →
      ∀ around, fetched around = (l.registerAll calls).fetchedBy around a url r := by
    intro r hr
    exact fetch_of_routed ⟨s.allBlank_address tail, ha, hkey ▸ hr⟩
  refine ⟨a, ha, fun h hserved around => ?_, fun hunserved around => ?_⟩
  · have hfetched := hrouted _ (route_of_servedBy hnew hserved) around
    refine ⟨hfetched, fun text htext => ?_⟩
    rw [hfetched, fetchedBy, htext]
    rfl
  · have hroute := route_of_unserved hnew hunserved
    have hread : ∀ r, l.route s.key = r → fetched around = l.fetchedBy around a url r := by
      intro r hr
      rw [hrouted r (hroute.trans hr) around, fetchedBy_registerAll]
    refine ⟨fun hhttp => hread .server ?_, fun hpackage => hread .package ?_,
      fun hfile => hread .file ?_, fun hother hletters => ?_⟩
    · rw [route_of_new hnew]
      rcases hhttp with hhttp | hhttp <;> rw [hhttp] <;> rfl
    · rw [route_of_new hnew, hpackage]
      rfl
    · rcases hfile with hfile | hletter
      · rw [route_of_new hnew, hfile]
        rfl
      · exact route_of_letter hnew hletter
    · rw [hread .none (route_of_other hnew hother hletters), fetchedBy, hkey,
        unfetched_eq url (unsupported_ne s.key url)]

/-- Two registrations under one name in different cases, and one in between. -/
def mixedCalls : List (String × Handler) :=
  [("https", fun _ => .ok "first"), ("mem", fun _ => .ok "other"), ("HTTPS", fun _ => .ok "last")]

/-- The name of a scheme that a reader is built in for. -/
def mixedScheme : SchemeName :=
  ⟨'h', "Ttps".toList, by decide, List.all_eq_true.mp (by decide +kernel)⟩

/-- The last of the two handlers is asked, and no server; a path with a drive letter is a file. -/
theorem scheme_routing_of_mixedCalls :
    (ServedBy mixedCalls mixedScheme fun _ => .ok "last") ∧
    (∀ around, ((registerAll { timeout := defaultTimeout } mixedCalls).fetch around
      "hTtps://a b").result = .ok "last") ∧
    Unserved mixedCalls ⟨'C', [], by decide, nofun⟩ ∧
    ∃ a, Address.ofText "C:x" = .ok a ∧ ∀ around,
      (registerAll { timeout := defaultTimeout } mixedCalls).fetch around "C:x" =
        { result := (readFile { timeout := defaultTimeout } around a "C:x").mapError (wrap "C:x"),
          log := announced "C:x" } := by
  have hserved : ServedBy mixedCalls mixedScheme fun _ => .ok "last" :=
    ⟨mixedCalls.take 2, "HTTPS", [], rfl, by decide +kernel, nofun⟩
  have hunserved : Unserved mixedCalls ⟨'C', [], by decide, nofun⟩ := by
    intro c hc
    simp only [mixedCalls, List.mem_cons, List.not_mem_nil, or_false] at hc
    rcases hc with rfl | rfl | rfl <;> decide +kernel
  have hplain : IsPlain "//a b" := by decide +kernel
  have hletter : IsPlain "x" := by decide +kernel
  obtain ⟨-, -, hread, -⟩ := scheme_routing (l := { timeout := defaultTimeout }) rfl mixedCalls
    mixedScheme hplain
  obtain ⟨a, ha, -, hfile⟩ := scheme_routing (l := { timeout := defaultTimeout }) rfl mixedCalls
    ⟨'C', [], by decide, nofun⟩ hletter
  exact ⟨hserved, fun around => (hread _ hserved around).2 _ rfl, hunserved, a, ha,
    fun around => (hfile hunserved around).2.2.1 (.inr rfl)⟩

end Loader

end ItemCatalog.Resource
