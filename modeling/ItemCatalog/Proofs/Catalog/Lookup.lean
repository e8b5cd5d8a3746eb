import ItemCatalog.Proofs.Catalog.History

/-! # Lookup: which item is found

A lookup with a version looks for an identity, that is, for a text with a colon between name and
version, and a colon inside of them makes this text ambiguous: what is found is what was asked for
exactly if nothing that is listed has a colon in its name or its version (`pinned_lookup_iff`).

A lookup without a version takes the last listed item of a name. Items are listed in the order in
which their identities came in, and an item that is replaced keeps its place, so that the item found
need not be the one that was stored last (`unpinned_lookup_iff`). -/

namespace ItemCatalog.Catalog

/-! ### Identities and their parts -/

theorem toList_joined (name version : String) :
    (name ++ ":" ++ version).toList = name.toList ++ ':' :: version.toList := by
  simp [String.toList_append]

/-- A text with one colon has one name and one version. -/
theorem joined_inj {name version name' version' : String} (hname : ':' ∉ name.toList)
    (hversion : ':' ∉ version.toList) (h : name ++ ":" ++ version = name' ++ ":" ++ version') :
    name = name' ∧ version = version' := by
  have hlists := congrArg String.toList h
  rw [toList_joined, toList_joined, List.append_cons_inj_of_notMem hname hversion] at hlists
  exact ⟨String.toList_inj.mp hlists.1, String.toList_inj.mp hlists.2.2⟩

/-- A text with a colon is a name, the colon and a version. -/
theorem exists_joined {s : String} (h : ':' ∈ s.toList) : ∃ a b, s = a ++ ":" ++ b := by
  obtain ⟨as, bs, hs⟩ := List.append_of_mem h
  refine ⟨String.ofList as, String.ofList bs, String.toList_inj.mp ?_⟩
  rw [toList_joined, String.toList_ofList, String.toList_ofList, hs]

/-- A name, the colon and a version are longer than either of the two. -/
theorem joined_ne (name version : String) :
    name ++ ":" ++ version ≠ name ∧ name ++ ":" ++ version ≠ version := by
  have hlength : (name ++ ":" ++ version).toList.length =
      name.toList.length + (version.toList.length + 1) := by
    rw [toList_joined, List.length_append, List.length_cons]
  refine ⟨fun h => ?_, fun h => ?_⟩
  · rw [h] at hlength
    omega
  · rw [h] at hlength
    omega

/-- An identity with a second colon is also that of another name and another version. -/
theorem other_parts {i : Item} (h : ':' ∈ i.symbolicName.toList ∨ ':' ∈ i.version.toList) :
    ∃ name version, i.id = name ++ ":" ++ version ∧
      i.symbolicName ≠ name ∧ i.version ≠ version := by
  rcases h with h | h
  · obtain ⟨a, b, hab⟩ := exists_joined h
    refine ⟨a, b ++ ":" ++ i.version, ?_, hab ▸ (joined_ne a b).1,
      Ne.symm (joined_ne b i.version).2⟩
    rw [Item.id, hab]
    simp only [String.append_assoc]
  · obtain ⟨a, b, hab⟩ := exists_joined h
    refine ⟨i.symbolicName ++ ":" ++ a, b, ?_, Ne.symm (joined_ne i.symbolicName a).1,
      hab ▸ (joined_ne a b).2⟩
    rw [Item.id, hab]
    simp only [String.append_assoc]

/-! ### With a version -/

/-- **A lookup with a version** finds the listed item whose identity spells both. -/
theorem get?_pinned_iff {c : Catalog} (hc : (c.items.map Item.id).Nodup) {name version : String}
    {i : Item} : c.get? name (some version) = some i ↔
      i ∈ c.items ∧ i.id = name ++ ":" ++ version := by
  constructor
  · intro h
    exact ⟨List.mem_of_find?_eq_some h, by simpa using List.find?_some h⟩
  · rintro ⟨hi, hid⟩
    cases hfound : c.get? name (some version) with
    | none =>
      have hnone := List.find?_eq_none.mp hfound i hi
      simp [hid] at hnone
    | some j =>
      have hj : j.id = name ++ ":" ++ version := by simpa using List.find?_some hfound
      have hmem := List.mem_of_find?_eq_some hfound
      rw [List.inj_on_of_nodup_map hc hmem hi (hj.trans hid.symm)]

/-- **A pinned lookup finds what was asked for, but for colons.** A listed item is always found
under its own name and version. What is found under a name and a version without colons has this
name and this version; and for all names and versions this is so exactly if no listed item has a
colon in its name or its version. -/
theorem pinned_lookup_iff (ops : List Operation) :
    (∀ i ∈ (run ops).items, (run ops).get? i.symbolicName (some i.version) = some i) ∧
    (∀ name version i, ':' ∉ name.toList → ':' ∉ version.toList →
      (run ops).get? name (some version) = some i →
        i.symbolicName = name ∧ i.version = version) ∧
    ((∀ name version i, (run ops).get? name (some version) = some i →
        i.symbolicName = name ∧ i.version = version) ↔
      ∀ i ∈ (run ops).items, ':' ∉ i.symbolicName.toList ∧ ':' ∉ i.version.toList) := by
  have hfound : ∀ name version i, (run ops).get? name (some version) = some i ↔
      i ∈ (run ops).items ∧ i.id = name ++ ":" ++ version := fun _ _ _ =>
    get?_pinned_iff (run_nodup ops)
  refine ⟨fun i hi => (hfound _ _ i).mpr ⟨hi, rfl⟩, fun name version i hname hversion h => ?_,
    fun h i hi => ?_, fun h name version i hi => ?_⟩
  · obtain ⟨hn, hv⟩ := joined_inj hname hversion ((hfound name version i).mp h).2.symm
    exact ⟨hn.symm, hv.symm⟩
  · -- A second colon gives a second way to ask for the item.
    rw [← not_or]
    intro hcolon
    obtain ⟨name, version, hid, hne, -⟩ := other_parts hcolon
    exact hne (h name version i ((hfound name version i).mpr ⟨hi, hid⟩)).1
  · obtain ⟨hmem, hid⟩ := (hfound name version i).mp hi
    exact joined_inj (h i hmem).1 (h i hmem).2 hid

/-- An item with a colon in its name is found under another name and another version. -/
theorem pinned_lookup_finds_other :
    ∃ i, (run [.addItem { symbolicName := "a:b", version := "c" } false]).get? "a" (some "b:c") =
      some i ∧ i.symbolicName ≠ "a" ∧ i.version ≠ "b:c" := by
  refine ⟨{ symbolicName := "a:b", version := "c" }, ?_, by decide, by decide⟩
  exact (get?_pinned_iff (run_nodup _)).mpr ⟨List.mem_singleton_self _, by decide⟩

/-! ### The order of identities -/

/-- Of two identities, the first came in when the second had not. -/
def CameBefore (log : List Item) (a b : String) : Prop :=
  ∃ before later, log = before ++ later ∧ a ∈ before.map Item.id ∧ b ∉ before.map Item.id

theorem CameBefore.concat {log : List Item} {a b : String} (h : CameBefore log a b) (z : Item) :
    CameBefore (log ++ [z]) a b := by
  obtain ⟨before, later, rfl, ha, hb⟩ := h
  exact ⟨before, later ++ [z], List.append_assoc _ _ _, ha, hb⟩

theorem CameBefore.asymm {log : List Item} {a b : String} (h : CameBefore log a b) :
    ¬ CameBefore log b a := by
  obtain ⟨before, later, rfl, ha, hb⟩ := h
  rintro ⟨before', later', heq, hb', ha'⟩
  rcases List.append_eq_append_iff.mp heq with ⟨more, rfl, -⟩ | ⟨more, rfl, -⟩
  · rw [List.map_append, List.mem_append, not_or] at ha'
    exact ha'.1 ha
  · rw [List.map_append, List.mem_append, not_or] at hb
    exact hb.1 hb'

/-- **The order of the list** is the order in which the identities came in, by induction on the
items that were stored, from the last one back. -/
theorem putAll_pairwise (log : List Item) :
    ((putAll [] log).map Item.id).Pairwise (CameBefore log) := by
  induction log using List.reverseRecOn with
  | nil => exact List.Pairwise.nil
  | append_singleton log z ih =>
    have hold : ((putAll [] log).map Item.id).Pairwise (CameBefore (log ++ [z])) :=
      ih.imp fun h => h.concat z
    rw [putAll_concat, putItem_ids]
    split_ifs with hz
    · exact hold
    · refine List.pairwise_append.mpr ⟨hold, List.pairwise_singleton _ _, fun a ha b hb => ?_⟩
      rw [List.mem_singleton] at hb
      rw [mem_putAll_ids] at ha hz
      rw [not_or] at hz
      exact ⟨log, [z], rfl, ha.resolve_left (by simp), hb ▸ hz.2⟩

/-! ### Without a version -/

/-- The listed item of a name whose identity came in after those of all others of the name. -/
def CameLast (ops : List Operation) (name : String) (i : Item) : Prop :=
  i ∈ (run ops).items ∧ i.symbolicName = name ∧
    ∀ j ∈ (run ops).items, j.symbolicName = name → j.id ≠ i.id →
      CameBefore (history ops) j.id i.id

/-- The listed item of a name after which no listed item of the name was stored. -/
def StoredLast (ops : List Operation) (name : String) (i : Item) : Prop :=
  i ∈ (run ops).items ∧ i.symbolicName = name ∧
    ∃ before later, history ops = before ++ i :: later ∧
      ∀ j ∈ later, j ∈ (run ops).items → j.symbolicName ≠ name

theorem CameLast.unique {ops : List Operation} {name : String} {i j : Item}
    (hi : CameLast ops name i) (hj : CameLast ops name j) : i = j := by
  obtain ⟨hmem, hname, hlast⟩ := hi
  obtain ⟨hmem', hname', hlast'⟩ := hj
  refine List.inj_on_of_nodup_map (run_nodup ops) hmem hmem' ?_
  by_contra hne
  exact (hlast' i hmem hname hne).asymm (hlast j hmem' hname' (Ne.symm hne))

/-- The last item of a name has no item of the name behind it. -/
theorem getLast?_filter_eq {l : List Item} {p : Item → Bool} {i : Item}
    (h : (l.filter p).getLast? = some i) :
    ∃ before later, l = before ++ i :: later ∧ p i = true ∧ ∀ j ∈ later, ¬ p j = true := by
  obtain ⟨ys, hys⟩ := List.getLast?_eq_some_iff.mp h
  obtain ⟨before, rest, rfl, -, hrest⟩ := List.filter_eq_append_iff.mp hys
  obtain ⟨between, later, rfl, -, hi, hlater⟩ := List.filter_eq_cons_iff.mp hrest
  refine ⟨before ++ between, later, by simp, hi, ?_⟩
  exact List.filter_eq_nil_iff.mp hlater

/-- What a lookup finds is the item whose identity came in last. -/
theorem cameLast_of_get? {ops : List Operation} {name : String} {i : Item}
    (h : (run ops).get? name none = some i) : CameLast ops name i := by
  obtain ⟨before, later, hitems, hi, hlater⟩ := getLast?_filter_eq h
  have horder := putAll_pairwise (history ops)
  rw [← run_items, hitems, List.map_append, List.map_cons, List.pairwise_append] at horder
  refine ⟨by simp [hitems], by simpa using hi, fun j hj hname hne => ?_⟩
  rw [hitems, List.mem_append, List.mem_cons] at hj
  rcases hj with hj | rfl | hj
  · exact horder.2.2 j.id (List.mem_map_of_mem hj) i.id List.mem_cons_self
  · exact absurd rfl hne
  · exact absurd (by simpa using hname) (hlater j hj)

/-- **A lookup without a version** finds the item of the name whose identity came in last. -/
theorem get?_unpinned_iff (ops : List Operation) (name : String) (i : Item) :
    (run ops).get? name none = some i ↔ CameLast ops name i := by
  constructor
  · exact cameLast_of_get?
  · intro hi
    cases hfound : (run ops).get? name none with
    | none => exact absurd hi.2.1 ((get?_unpinned (run ops) name).1.mp hfound i hi.1)
    | some j => rw [hi.unique (cameLast_of_get? hfound)]

/-- If some member of a list has a property, there is a last one. -/
theorem exists_last {α : Type} {p : α → Prop} {l : List α} (h : ∃ x ∈ l, p x) :
    ∃ before x later, l = before ++ x :: later ∧ p x ∧ ∀ y ∈ later, ¬ p y := by
  induction l with
  | nil => simp at h
  | cons a rest ih =>
    by_cases hrest : ∃ x ∈ rest, p x
    · obtain ⟨before, x, later, rfl, hx, hlater⟩ := ih hrest
      exact ⟨a :: before, x, later, rfl, hx, hlater⟩
    · obtain ⟨x, hx, hpx⟩ := h
      have hxa : x = a := (List.mem_cons.mp hx).resolve_right fun hx' => hrest ⟨x, hx', hpx⟩
      exact ⟨[], a, rest, rfl, hxa ▸ hpx, fun y hy hpy => hrest ⟨y, hy, hpy⟩⟩

/-- Where an item of a name is listed, one of them was stored last. -/
theorem exists_storedLast {ops : List Operation} {i : Item} (hi : i ∈ (run ops).items) :
    ∃ j, StoredLast ops i.symbolicName j := by
  obtain ⟨before, j, later, hlog, ⟨hj, hname⟩, hlater⟩ :=
    exists_last (p := fun j => j ∈ (run ops).items ∧ j.symbolicName = i.symbolicName)
      ⟨i, mem_history_of_mem_run hi, hi, rfl⟩
  exact ⟨j, hj, hname, before, later, hlog, fun k hk hk' hkn => hlater k hk ⟨hk', hkn⟩⟩

/-- If nothing was stored twice under an identity, the identity of the item stored last came in
last. -/
theorem StoredLast.cameLast {ops : List Operation} {name : String} {i : Item}
    (hnd : ((history ops).map Item.id).Nodup) (h : StoredLast ops name i) :
    CameLast ops name i := by
  obtain ⟨hi, hname, before, later, hlog, hlater⟩ := h
  refine ⟨hi, hname, fun j hj hjname hne => ?_⟩
  have hmem := mem_history_of_mem_run hj
  rw [hlog, List.map_append, List.map_cons, List.nodup_append'] at hnd
  rw [hlog, List.mem_append, List.mem_cons] at hmem
  rcases hmem with hj' | rfl | hj'
  · refine ⟨before, i :: later, hlog, List.mem_map_of_mem hj', fun hid => ?_⟩
    exact hnd.2.2 hid List.mem_cons_self
  · exact absurd rfl hne
  · exact absurd hjname (hlater j hj' hj)

/-- **An unpinned lookup finds the item whose identity came in last.** This is the item that was
stored last exactly if the identity of the item stored last came in last, in particular if nothing
was stored twice under an identity since the last reset. -/
theorem unpinned_lookup_iff (ops : List Operation) (name : String) :
    (∀ i, (run ops).get? name none = some i ↔ CameLast ops name i) ∧
    ((∀ i, (run ops).get? name none = some i ↔ StoredLast ops name i) ↔
      ∀ i, StoredLast ops name i → CameLast ops name i) ∧
    (((history ops).map Item.id).Nodup →
      ∀ i, (run ops).get? name none = some i ↔ StoredLast ops name i) := by
  have hfound := get?_unpinned_iff ops name
  have hlast : (∀ i, StoredLast ops name i → CameLast ops name i) →
      ∀ i, (run ops).get? name none = some i ↔ StoredLast ops name i := by
    intro h i
    refine ⟨fun hi => ?_, fun hi => (hfound i).mpr (h i hi)⟩
    have hcame := (hfound i).mp hi
    obtain ⟨j, hj⟩ := exists_storedLast hcame.1
    rw [hcame.2.1] at hj
    rwa [hcame.unique (h j hj)]
  exact ⟨hfound, ⟨fun h i hi => (hfound i).mp ((h i).mpr hi), hlast⟩,
    fun hnd => hlast fun i hi => hi.cameLast hnd⟩

/-- Two versions of an item are added, and then the first of them is replaced. -/
def replacing : List Operation :=
  [.addItem { symbolicName := "a", version := "1" } false,
    .addItem { symbolicName := "a", version := "2" } false,
    .addItem { symbolicName := "a", version := "1" } true]

/-- An item that is replaced keeps its place, so that the lookup finds another one than the item
that was stored last. -/
theorem unpinned_lookup_of_replaced :
    ∃ i j, (run replacing).get? "a" none = some i ∧ StoredLast replacing "a" j ∧
      i.version ≠ j.version := by
  refine ⟨{ symbolicName := "a", version := "2" }, { symbolicName := "a", version := "1" },
    rfl, ⟨?_, rfl, [_, _], [], rfl, nofun⟩, by decide⟩
  exact List.mem_cons_self

end ItemCatalog.Catalog
