import ItemCatalog.Proofs.Value.Keys

/-! # Merging: mappings put into mappings

Merging keeps keys apart (`distinctKeys_merge`), and entries whose keys are apart are merged into
nothing as they are (`merge_nil`). Leaving keys out commutes with merging (`filter_merge`). A
mapping merged into defaults has the entries of the mapping extended with these defaults, in another
order (`merge_perm_extend`); for what is under a text the order does not matter (`get?_perm`). -/

namespace ItemCatalog

/-! ### Keys -/

theorem Number.Binary64.same_comm (x y : Number.Binary64) : x.same y = y.same x := by
  cases x <;> cases y <;> simp [Number.Binary64.same, Bool.beq_comm, Bool.and_comm]

theorem Calendar.Instant.same_comm (t u : Calendar.Instant) : t.same u = u.same t := by
  unfold Calendar.Instant.same
  cases t.offset <;> cases u.offset <;> simp [Bool.beq_comm]

namespace Scalar

theorem same_comm (a b : Scalar) : a.same b = b.same a := by
  cases a <;> cases b <;>
    simp [same, asInt?, Bool.beq_comm, Number.Binary64.same_comm, Calendar.Instant.same_comm,
      Bool.and_comm]

/-- Of two keys that are the same, both are a text or none is. -/
theorem same_text_congr {a b : Scalar} (h : a.same b = true) (s : String) :
    a.same (.text s) = b.same (.text s) := by
  rw [Bool.eq_iff_iff, same_text_iff, same_text_iff]
  constructor
  · rintro rfl
    rw [text_same, beq_iff_eq] at h
    exact h.symm
  · rintro rfl
    exact same_text_iff.mp h

end Scalar

theorem distinctKeys_textEntries {fields : List (String × String)}
    (h : (fields.map Prod.fst).Nodup) : DistinctKeys ((textEntries fields).map Prod.fst) := by
  rw [DistinctKeys, textEntries, List.map_map, List.pairwise_map]
  refine (List.pairwise_map.mp h).imp fun {f g} hfg => ?_
  show (Scalar.text f.1).same (.text g.1) = false
  rw [Scalar.same_text, beq_eq_false_iff_ne]
  exact fun heq => hfg (Scalar.text.inj heq)

theorem DistinctKeys.perm {keys keys' : List Scalar} (h : DistinctKeys keys)
    (hperm : keys.Perm keys') : DistinctKeys keys' :=
  hperm.pairwise h fun {a b} hab => by rw [Scalar.same_comm, hab]

namespace Entries

theorem find?_eq_none_iff {entries : Entries} {key : Scalar} :
    entries.find? key = none ↔ ∀ e ∈ entries, e.1.same key = false := by
  induction entries with
  | nil => simp [find?]
  | cons e rest ih =>
    obtain ⟨k, v⟩ := e
    rw [find?, List.forall_mem_cons]
    cases hk : k.same key <;> simp [ih]

/-! ### One entry -/

section Put

variable (entries : Entries) (key : Scalar) (v : Value)

theorem keys_put : (entries.put key v).map Prod.fst =
    entries.map Prod.fst ++ if (entries.find? key).isNone then [key] else [] := by
  induction entries with
  | nil => rfl
  | cons e rest ih =>
    obtain ⟨k, w⟩ := e
    rw [put, find?]
    cases hk : k.same key with
    | true => simp
    | false => simpa using ih

/-- A new key comes at the end. -/
theorem put_of_find?_none {entries : Entries} {key : Scalar} (h : entries.find? key = none)
    (v : Value) : entries.put key v = entries ++ [(key, v)] := by
  induction entries with
  | nil => rfl
  | cons e rest ih =>
    obtain ⟨k, w⟩ := e
    rw [find?] at h
    split_ifs at h with hk
    rw [put, if_neg hk, ih h, List.cons_append]

variable {entries} in
theorem distinctKeys_put (h : DistinctKeys (entries.map Prod.fst)) :
    DistinctKeys ((entries.put key v).map Prod.fst) := by
  rw [keys_put]
  split_ifs with hnew
  · refine List.pairwise_append.mpr ⟨h, List.pairwise_singleton _ _, fun a ha b hb => ?_⟩
    obtain ⟨e, he, rfl⟩ := List.mem_map.mp ha
    rw [List.mem_singleton.mp hb]
    exact find?_eq_none_iff.mp (Option.isNone_iff_eq_none.mp hnew) e he
  · rwa [List.append_nil]

/-- Leaving keys out, where the same keys are left out, commutes with one more entry. -/
theorem filter_put {p : Scalar → Bool} (hp : ∀ a b : Scalar, a.same b = true → p a = p b) :
    (entries.put key v).filter (fun e => p e.1) =
      if p key then put key v (entries.filter fun e => p e.1)
      else entries.filter fun e => p e.1 := by
  induction entries with
  | nil => cases hkey : p key <;> simp [put, hkey]
  | cons e rest ih =>
    obtain ⟨k, w⟩ := e
    rw [put]
    cases hk : k.same key with
    | true =>
      have hsame : p k = p key := hp k key hk
      cases hkey : p key <;> simp [put, hk, hsame, hkey]
    | false => cases hkey : p key <;> cases hkept : p k <;> simp_all [put]

/-- **One more entry** in a mapping in which its key has one spelling: the others are kept, in some
order. -/
theorem put_perm {entries : Entries} {key : Scalar} (h : DistinctKeys (entries.map Prod.fst))
    (hspelled : ∀ e ∈ entries, e.1.same key = true → e.1 = key) (v : Value) :
    (entries.put key v).Perm ((key, v) :: entries.filter fun e => !e.1.same key) := by
  induction entries with
  | nil => exact .refl _
  | cons e rest ih =>
    obtain ⟨k, w⟩ := e
    obtain ⟨hhead, hrest⟩ := List.pairwise_cons.mp h
    rw [put]
    cases hk : k.same key with
    | true =>
      obtain rfl : k = key := hspelled _ List.mem_cons_self hk
      have hothers : rest.filter (fun e => !e.1.same k) = rest := by
        refine List.filter_eq_self.mpr fun e he => ?_
        rw [Scalar.same_comm, hhead e.1 (List.mem_map_of_mem he)]
        rfl
      simp [hk, hothers]
    | false =>
      have hperm := ih hrest fun e he => hspelled e (List.mem_cons_of_mem _ he)
      simpa [hk] using (hperm.cons (k, w)).trans (.swap _ _ _)

end Put

/-! ### All entries of a mapping -/

theorem merge_cons (entries : Entries) (key : Scalar) (v : Value) (rest : Entries) :
    entries.merge ((key, v) :: rest) = (entries.put key v).merge rest := rfl

theorem distinctKeys_merge {entries : Entries} (h : DistinctKeys (entries.map Prod.fst))
    (more : Entries) : DistinctKeys ((entries.merge more).map Prod.fst) := by
  induction more generalizing entries with
  | nil => exact h
  | cons e rest ih => exact ih (distinctKeys_put e.1 e.2 h)

theorem merge_eq_append {entries more : Entries}
    (h : DistinctKeys ((entries ++ more).map Prod.fst)) : entries.merge more = entries ++ more := by
  induction more generalizing entries with
  | nil => exact (List.append_nil entries).symm
  | cons e rest ih =>
    obtain ⟨k, v⟩ := e
    have hnew : entries.find? k = none := by
      rw [List.map_append] at h
      exact find?_eq_none_iff.mpr fun e he => (List.pairwise_append.mp h).2.2 e.1
        (List.mem_map_of_mem he) k List.mem_cons_self
    have happend : entries ++ (k, v) :: rest = entries ++ [(k, v)] ++ rest := by
      rw [List.append_assoc]
      rfl
    rw [merge_cons, put_of_find?_none hnew, happend, ih (happend ▸ h)]

/-- **Entries whose keys are apart,** merged into nothing, stay as they are. -/
theorem merge_nil {more : Entries} (h : DistinctKeys (more.map Prod.fst)) :
    merge [] more = more :=
  merge_eq_append h

theorem filter_merge {p : Scalar → Bool} (hp : ∀ a b : Scalar, a.same b = true → p a = p b)
    (entries more : Entries) : (entries.merge more).filter (fun e => p e.1) =
      merge (entries.filter fun e => p e.1) (more.filter fun e => p e.1) := by
  induction more generalizing entries with
  | nil => rfl
  | cons e rest ih =>
    obtain ⟨k, v⟩ := e
    rw [merge_cons, ih, filter_put _ _ _ hp, List.filter_cons]
    split_ifs with hk
    · rfl
    · rfl

/-! ### Orders -/

theorem get?_eq_some_iff_mem {entries : Entries} (h : DistinctKeys (entries.map Prod.fst))
    {key : String} {v : Value} : entries.get? key = some v ↔ (.text key, v) ∈ entries := by
  refine ⟨mem_of_get?, fun hmem => ?_⟩
  induction entries with
  | nil => cases hmem
  | cons e rest ih =>
    obtain ⟨k, w⟩ := e
    obtain ⟨hhead, hrest⟩ := List.pairwise_cons.mp h
    rw [get?_cons]
    rcases List.mem_cons.mp hmem with heq | hmem
    · cases heq
      exact if_pos rfl
    · have hne : k ≠ .text key := by
        intro hk
        have hdiffer := hhead _ (List.mem_map_of_mem hmem)
        rw [Scalar.same_text_iff.mpr hk] at hdiffer
        cases hdiffer
      rw [if_neg hne, ih hrest hmem]

/-- **What is under a text** does not depend on the order of the entries. -/
theorem get?_perm {entries entries' : Entries} (h : DistinctKeys (entries.map Prod.fst))
    (hperm : entries.Perm entries') (key : String) : entries.get? key = entries'.get? key := by
  refine Option.ext fun v => ?_
  rw [get?_eq_some_iff_mem h, get?_eq_some_iff_mem (h.perm (hperm.map _)), hperm.mem_iff]

/-- **A mapping merged into defaults** has the entries of the mapping extended with them, where no
key has two spellings. -/
theorem merge_perm_extend {entries more : Entries} (h : DistinctKeys (entries.map Prod.fst))
    (hmore : DistinctKeys (more.map Prod.fst))
    (hspelled : ∀ e ∈ entries, ∀ m ∈ more, e.1.same m.1 = true → e.1 = m.1) :
    (entries.merge more).Perm (more.extend entries) := by
  induction more generalizing entries with
  | nil =>
    have hkept : entries.filter (fun e => (find? e.1 []).isNone) = entries :=
      List.filter_eq_self.mpr fun _ _ => rfl
    rw [extend, hkept]
    exact .refl _
  | cons m rest ih =>
    obtain ⟨k, v⟩ := m
    obtain ⟨hhead, hrest⟩ := List.pairwise_cons.mp hmore
    have hnew : find? k rest = none := find?_eq_none_iff.mpr fun e he => by
      rw [Scalar.same_comm]
      exact hhead e.1 (List.mem_map_of_mem he)
    have hput : (entries.put k v).Perm ((k, v) :: entries.filter fun e => !e.1.same k) :=
      put_perm h (fun e he => hspelled e he _ List.mem_cons_self) v
    have hspelled' : ∀ e ∈ entries.put k v, ∀ m ∈ rest, e.1.same m.1 = true → e.1 = m.1 := by
      intro e he m hm hsame
      rcases List.mem_cons.mp (hput.subset he) with rfl | he
      · exact absurd (hhead _ (List.mem_map_of_mem hm)) (ne_true_of_eq_false · hsame)
      · exact hspelled e (List.mem_of_mem_filter he) m (List.mem_cons_of_mem _ hm) hsame
    have hlacks : (entries.filter fun e => !e.1.same k).filter (fun e => (find? e.1 rest).isNone) =
        entries.filter fun e => (find? e.1 ((k, v) :: rest)).isNone := by
      rw [List.filter_filter]
      refine List.filter_congr fun e _ => ?_
      rw [find?, Scalar.same_comm k]
      cases e.1.same k <;> simp
    have hadded : ((entries.put k v).filter fun e => (find? e.1 rest).isNone).Perm
        ((k, v) :: entries.filter fun e => (find? e.1 ((k, v) :: rest)).isNone) := by
      have hfilter := hput.filter fun e => (find? e.1 rest).isNone
      rwa [List.filter_cons, if_pos (Option.isNone_iff_eq_none.mpr hnew), hlacks] at hfilter
    exact ((ih (distinctKeys_put k v h) hrest hspelled').trans (hadded.append_left rest)).trans
      List.perm_middle

end Entries

end ItemCatalog
