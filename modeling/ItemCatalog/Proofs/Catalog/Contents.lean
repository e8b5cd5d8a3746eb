import ItemCatalog.Catalog.Basic
import Mathlib.Data.List.Nodup
import Mathlib.Tactic.SplitIfs

/-! # Contents: what storing leaves in a catalog

Items are stored one at a time. What a list of them leaves is described here without the steps:
`newItems` are the items whose identity neither is taken nor came earlier, `clashing` are the
others, and `latest` gives an item the value that came last under its identity. Storing a list puts
the latest value into the place of every taken identity and appends the new identities; adding
without force appends the new items as they first came and reports the others. -/

namespace ItemCatalog.Catalog

/-! ### Descriptions -/

/-- The items whose identity neither is taken nor came earlier. -/
def newItems (taken : List String) : List Item → List Item
  | [] => []
  | a :: rest => if a.id ∈ taken then newItems taken rest else a :: newItems (a.id :: taken) rest

/-- The items whose identity is taken or came earlier. -/
def clashing (taken : List String) : List Item → List Item
  | [] => []
  | a :: rest => if a.id ∈ taken then a :: clashing taken rest else clashing (a.id :: taken) rest

/-- The last of some items under an identity. -/
def lastOf? (id : String) : List Item → Option Item
  | [] => none
  | a :: rest => (lastOf? id rest).or (if a.id = id then some a else none)

/-- The value of an item after some others: the last one under its identity, or its own. -/
def latest (items : List Item) (i : Item) : Item :=
  (lastOf? i.id items).getD i

/-- Every identity once, at its first place and with its last value. -/
def keptOnce (items : List Item) : List Item :=
  (newItems [] items).map (latest items)

/-! ### The latest values -/

@[simp] theorem latest_nil (i : Item) : latest [] i = i := rfl

theorem lastOf?_spec {id : String} {items : List Item} {i : Item} (h : lastOf? id items = some i) :
    i ∈ items ∧ i.id = id := by
  induction items with
  | nil => simp [lastOf?] at h
  | cons a rest ih =>
    rw [lastOf?, Option.or_eq_some_iff] at h
    rcases h with h | ⟨-, h⟩
    · obtain ⟨hm, hi⟩ := ih h
      exact ⟨List.mem_cons_of_mem a hm, hi⟩
    · split_ifs at h with ha
      obtain rfl := Option.some.inj h
      exact ⟨List.mem_cons_self, ha⟩

theorem latest_id (items : List Item) (i : Item) : (latest items i).id = i.id := by
  unfold latest
  cases h : lastOf? i.id items with
  | none => rfl
  | some j => exact (lastOf?_spec h).2

theorem map_latest_id (items l : List Item) :
    (l.map (latest items)).map Item.id = l.map Item.id := by
  rw [List.map_map]
  exact List.map_congr_left fun i _ => latest_id items i

/-- An earlier item of the same identity counts only if none came later. -/
theorem latest_cons_same {a i : Item} (rest : List Item) (h : i.id = a.id) :
    latest (a :: rest) i = latest rest a := by
  unfold latest
  rw [lastOf?, if_pos h.symm, h]
  cases lastOf? a.id rest <;> rfl

theorem latest_cons_other {a i : Item} (rest : List Item) (h : i.id ≠ a.id) :
    latest (a :: rest) i = latest rest i := by
  unfold latest
  rw [lastOf?, if_neg (Ne.symm h), Option.or_none]

/-- Values of other identities do not matter to a list. -/
theorem map_latest_cons {a : Item} (rest : List Item) {l : List Item}
    (h : ∀ i ∈ l, i.id ≠ a.id) : l.map (latest (a :: rest)) = l.map (latest rest) :=
  List.map_congr_left fun i hi => latest_cons_other rest (h i hi)

theorem latest_of_nodup {items : List Item} (h : (items.map Item.id).Nodup) {i : Item}
    (hi : i ∈ items) : latest items i = i := by
  induction items with
  | nil => simp at hi
  | cons a rest ih =>
    rw [List.map_cons, List.nodup_cons] at h
    rcases List.mem_cons.mp hi with rfl | hi
    · rw [latest_cons_same rest rfl, latest]
      cases hl : lastOf? i.id rest with
      | none => rfl
      | some j =>
        obtain ⟨hj, hid⟩ := lastOf?_spec hl
        exact absurd (hid ▸ List.mem_map_of_mem hj) h.1
    · have hne : i.id ≠ a.id := fun e => h.1 (e ▸ List.mem_map_of_mem hi)
      rw [latest_cons_other rest hne, ih h.2 hi]

/-! ### New and clashing items -/

/-- Only which identities are taken matters. -/
theorem sift_congr {taken taken' : List String} (h : ∀ id, id ∈ taken ↔ id ∈ taken')
    (items : List Item) : newItems taken items = newItems taken' items ∧
      clashing taken items = clashing taken' items := by
  induction items generalizing taken taken' with
  | nil => exact ⟨rfl, rfl⟩
  | cons a rest ih =>
    have hcons : ∀ id, id ∈ a.id :: taken ↔ id ∈ a.id :: taken' := fun id => by
      rw [List.mem_cons, List.mem_cons, h id]
    simp only [newItems, clashing, h a.id, ih h, ih hcons, and_self]

theorem newItems_congr {taken taken' : List String} (h : ∀ id, id ∈ taken ↔ id ∈ taken')
    (items : List Item) : newItems taken items = newItems taken' items := (sift_congr h items).1

theorem clashing_congr {taken taken' : List String} (h : ∀ id, id ∈ taken ↔ id ∈ taken')
    (items : List Item) : clashing taken items = clashing taken' items := (sift_congr h items).2

theorem mem_append_singleton_iff (taken : List String) (id x : String) :
    x ∈ taken ++ [id] ↔ x ∈ id :: taken := by
  rw [List.mem_append, List.mem_singleton, List.mem_cons, or_comm]

theorem not_taken_of_mem_newItems {taken : List String} {items : List Item} {i : Item}
    (h : i ∈ newItems taken items) : i.id ∉ taken := by
  induction items generalizing taken with
  | nil => simp [newItems] at h
  | cons a rest ih =>
    rw [newItems] at h
    split_ifs at h with ha
    · exact ih h
    · rcases List.mem_cons.mp h with rfl | h
      · exact ha
      · exact fun hi => ih h (List.mem_cons_of_mem _ hi)

theorem newItems_nodup (taken : List String) (items : List Item) :
    ((newItems taken items).map Item.id).Nodup := by
  induction items generalizing taken with
  | nil => simp [newItems]
  | cons a rest ih =>
    rw [newItems]
    split_ifs with ha
    · exact ih taken
    · rw [List.map_cons, List.nodup_cons]
      refine ⟨fun h => ?_, ih _⟩
      obtain ⟨i, hi, hid⟩ := List.mem_map.mp h
      exact not_taken_of_mem_newItems hi (hid ▸ List.mem_cons_self)

theorem newItems_sublist (taken : List String) (items : List Item) :
    (newItems taken items).Sublist items := by
  induction items generalizing taken with
  | nil => exact List.Sublist.refl _
  | cons a rest ih =>
    rw [newItems]
    split_ifs with ha
    · exact (ih taken).cons a
    · exact (ih _).cons_cons a

theorem length_newItems_add_clashing (taken : List String) (items : List Item) :
    (newItems taken items).length + (clashing taken items).length = items.length := by
  induction items generalizing taken with
  | nil => rfl
  | cons a rest ih =>
    rw [newItems, clashing]
    split_ifs with ha
    · have := ih taken
      simp only [List.length_cons]; omega
    · have := ih (a.id :: taken)
      simp only [List.length_cons]; omega

/-- Nothing clashes exactly when nothing is left out. -/
theorem clashing_eq_nil_iff (taken : List String) (items : List Item) :
    clashing taken items = [] ↔ newItems taken items = items := by
  have hlen := length_newItems_add_clashing taken items
  constructor
  · intro h
    rw [h, List.length_nil] at hlen
    exact (newItems_sublist taken items).eq_of_length (by omega)
  · intro h
    rw [h] at hlen
    exact List.eq_nil_of_length_eq_zero (by omega)

/-- Nothing is left out exactly when no identity is taken or comes twice. -/
theorem newItems_eq_self_iff (taken : List String) (items : List Item) :
    newItems taken items = items ↔
      (items.map Item.id).Nodup ∧ ∀ i ∈ items, i.id ∉ taken := by
  constructor
  · intro h
    exact ⟨h ▸ newItems_nodup taken items, fun i hi => not_taken_of_mem_newItems (h.symm ▸ hi)⟩
  · rintro ⟨hnd, hfree⟩
    induction items generalizing taken with
    | nil => rfl
    | cons a rest ih =>
      rw [List.map_cons, List.nodup_cons] at hnd
      rw [newItems, if_neg (hfree a List.mem_cons_self), ih _ hnd.2]
      intro i hi ht
      rcases List.mem_cons.mp ht with hid | ht
      · exact hnd.1 (hid ▸ List.mem_map_of_mem hi)
      · exact hfree i (List.mem_cons_of_mem a hi) ht

theorem newItems_nil_eq_self_iff (items : List Item) :
    newItems [] items = items ↔ (items.map Item.id).Nodup := by
  simp [newItems_eq_self_iff]

/-- If all identities are taken, nothing is new and everything clashes. -/
theorem sift_of_taken {taken : List String} {items : List Item}
    (h : ∀ i ∈ items, i.id ∈ taken) : newItems taken items = [] ∧ clashing taken items = items := by
  induction items with
  | nil => exact ⟨rfl, rfl⟩
  | cons a rest ih =>
    obtain ⟨hnew, hclash⟩ := ih fun i hi => h i (List.mem_cons_of_mem a hi)
    have ha := h a List.mem_cons_self
    rw [newItems, if_pos ha, clashing, if_pos ha, hnew, hclash]
    exact ⟨rfl, rfl⟩

theorem keptOnce_ids (items : List Item) :
    (keptOnce items).map Item.id = (newItems [] items).map Item.id :=
  map_latest_id items _

theorem keptOnce_nodup (items : List Item) : ((keptOnce items).map Item.id).Nodup :=
  keptOnce_ids items ▸ newItems_nodup [] items

/-- Keeping every identity once changes exactly the lists in which one comes twice. -/
theorem keptOnce_eq_self_iff (items : List Item) :
    keptOnce items = items ↔ (items.map Item.id).Nodup := by
  constructor
  · intro h
    exact h ▸ keptOnce_nodup items
  · intro h
    rw [keptOnce, (newItems_nil_eq_self_iff items).mpr h]
    calc items.map (latest items) = items.map id :=
          List.map_congr_left fun i hi => latest_of_nodup h hi
      _ = items := List.map_id items

end ItemCatalog.Catalog
