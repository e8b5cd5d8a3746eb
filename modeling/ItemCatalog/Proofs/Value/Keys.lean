import ItemCatalog.Proofs.Value.Entries

/-! # Keys: values in whose mappings no key comes again

Mappings are lists of entries, and as a list a mapping may hold a key twice. `WellKeyed` says of a
value that this is so nowhere in it. It still holds when the value is opened, with the containers
that contain themselves put back into their parts (`wellKeyed_open`), so that the entries of a
mapping and the elements of a list are well keyed again (`wellKeyed_asMap`, `wellKeyed_asList`). A
mapping without a key that comes again reads the same from either end (`get?_reverse`). -/

namespace ItemCatalog

/-- Keys of which none comes again. -/
def DistinctKeys (keys : List Scalar) : Prop :=
  keys.Pairwise fun a b => a.same b = false

theorem distinctKeys_nil : DistinctKeys [] := List.Pairwise.nil

namespace Entries

theorem get?_eq_none_iff {entries : Entries} {key : String} :
    entries.get? key = none ↔ ∀ e ∈ entries, e.1 ≠ .text key := by
  induction entries with
  | nil => simp
  | cons e rest ih =>
    obtain ⟨k, v⟩ := e
    rw [get?_cons, List.forall_mem_cons]
    by_cases hk : k = .text key
    · simp [hk]
    · simp [hk, ih]

/-- A key is missing from either end. -/
theorem get?_reverse_eq_none_iff {entries : Entries} {key : String} :
    get? entries.reverse key = none ↔ entries.get? key = none := by
  simp only [get?_eq_none_iff, List.mem_reverse]

theorem mem_of_get? {entries : Entries} {key : String} {v : Value}
    (h : entries.get? key = some v) : (.text key, v) ∈ entries := by
  induction entries with
  | nil => cases h
  | cons e rest ih =>
    obtain ⟨k, w⟩ := e
    rw [get?_cons] at h
    split_ifs at h with hk
    · obtain rfl := Option.some.inj h
      exact hk ▸ List.mem_cons_self
    · exact List.mem_cons_of_mem _ (ih h)

/-- **A mapping in which no key comes again** reads the same from either end. -/
theorem get?_reverse {entries : Entries} (h : DistinctKeys (entries.map Prod.fst)) (key : String) :
    get? entries.reverse key = entries.get? key := by
  induction entries with
  | nil => rfl
  | cons e rest ih =>
    obtain ⟨k, v⟩ := e
    obtain ⟨hhead, hrest⟩ := List.pairwise_cons.mp h
    rw [List.reverse_cons, get?_append, ih hrest, get?_cons, get?_cons]
    by_cases hk : k = .text key
    · have hnone : get? rest key = none := by
        refine get?_eq_none_iff.mpr fun e he hkey => ?_
        have hdiffer := hhead e.1 (List.mem_map_of_mem he)
        rw [hkey, Scalar.same_text_iff.mpr hk] at hdiffer
        cases hdiffer
      rw [hnone, if_pos hk, if_pos hk]
      rfl
    · rw [if_neg hk, if_neg hk]
      exact Option.or_none

end Entries

namespace Value

mutual

/-- In no mapping inside a value comes a key again. -/
def WellKeyed : Value → Prop
  | .list items => AllWellKeyed items
  | .pair a b => WellKeyed a ∧ WellKeyed b
  | .map entries => DistinctKeys (entries.map Prod.fst) ∧ EntriesWellKeyed entries
  | .knot _ body => WellKeyed body
  | .scalar _ => True
  | .set _ => True
  | .again _ => True

/-- `WellKeyed` for the values of a list. -/
def AllWellKeyed : List Value → Prop
  | [] => True
  | v :: vs => WellKeyed v ∧ AllWellKeyed vs

/-- `WellKeyed` for the values of a mapping. -/
def EntriesWellKeyed : Entries → Prop
  | [] => True
  | (_, v) :: rest => WellKeyed v ∧ EntriesWellKeyed rest

end

theorem allWellKeyed_iff {vs : List Value} : AllWellKeyed vs ↔ ∀ v ∈ vs, WellKeyed v := by
  induction vs with
  | nil => simp [AllWellKeyed]
  | cons v vs ih => rw [AllWellKeyed, ih, List.forall_mem_cons]

theorem entriesWellKeyed_iff {entries : Entries} :
    EntriesWellKeyed entries ↔ ∀ e ∈ entries, WellKeyed e.2 := by
  induction entries with
  | nil => simp [EntriesWellKeyed]
  | cons e rest ih => rw [EntriesWellKeyed, ih, List.forall_mem_cons]

theorem keys_closeEntries (label : Nat) (whole : Value) (entries : Entries) :
    (closeEntries label whole entries).map Prod.fst = entries.map Prod.fst := by
  induction entries with
  | nil => rfl
  | cons e rest ih => rw [closeEntries, List.map_cons, List.map_cons, ih]

mutual

/-- Putting a container back keeps the keys of all mappings around it, by induction on the value. -/
theorem wellKeyed_close {label : Nat} {whole : Value} (hwhole : WellKeyed whole) :
    ∀ v, WellKeyed v → WellKeyed (close label whole v)
  | .list items, h => allWellKeyed_closeAll hwhole items h
  | .pair a b, h => ⟨wellKeyed_close hwhole a h.1, wellKeyed_close hwhole b h.2⟩
  | .map entries, h => by
    refine ⟨?_, entriesWellKeyed_closeEntries hwhole entries h.2⟩
    rw [keys_closeEntries]
    exact h.1
  | .knot l body, h => by
    rw [close]
    split_ifs
    · exact h
    · exact wellKeyed_close hwhole body h
  | .again l, _ => by
    rw [close]
    split_ifs
    · exact hwhole
    · trivial
  | .scalar _, _ => trivial
  | .set _, _ => trivial

theorem allWellKeyed_closeAll {label : Nat} {whole : Value} (hwhole : WellKeyed whole) :
    ∀ vs, AllWellKeyed vs → AllWellKeyed (closeAll label whole vs)
  | [], _ => trivial
  | v :: vs, h => ⟨wellKeyed_close hwhole v h.1, allWellKeyed_closeAll hwhole vs h.2⟩

theorem entriesWellKeyed_closeEntries {label : Nat} {whole : Value} (hwhole : WellKeyed whole) :
    ∀ entries, EntriesWellKeyed entries → EntriesWellKeyed (closeEntries label whole entries)
  | [], _ => trivial
  | (_, v) :: rest, h =>
    ⟨wellKeyed_close hwhole v h.1, entriesWellKeyed_closeEntries hwhole rest h.2⟩

end

/-- **An opened value** is well keyed if the value is. -/
theorem wellKeyed_open {v : Value} (h : WellKeyed v) : WellKeyed v.open? := by
  cases v with
  | knot label body => exact wellKeyed_close h body h
  | _ => exact h

theorem wellKeyed_asMap {v : Value} (h : WellKeyed v) {entries : Entries}
    (hmap : v.asMap? = some entries) :
    DistinctKeys (entries.map Prod.fst) ∧ ∀ e ∈ entries, WellKeyed e.2 := by
  have hopen := wellKeyed_open h
  unfold asMap? at hmap
  split at hmap
  · rename_i heq
    rw [heq, Option.some.inj hmap] at hopen
    exact ⟨hopen.1, entriesWellKeyed_iff.mp hopen.2⟩
  · cases hmap

theorem wellKeyed_asList {v : Value} (h : WellKeyed v) {items : List Value}
    (hlist : v.asList? = some items) : ∀ v ∈ items, WellKeyed v := by
  have hopen := wellKeyed_open h
  unfold asList? at hlist
  split at hlist
  · rename_i heq
    rw [heq, Option.some.inj hlist] at hopen
    exact allWellKeyed_iff.mp hopen
  · cases hlist

/-- What is under a text in a well keyed mapping is well keyed. -/
theorem wellKeyed_get? {v : Value} (h : WellKeyed v) {entries : Entries} {key : String} {w : Value}
    (hmap : v.asMap? = some entries) (hkey : entries.get? key = some w) : WellKeyed w :=
  (wellKeyed_asMap h hmap).2 _ (Entries.mem_of_get? hkey)

end Value

end ItemCatalog
