import ItemCatalog.Proofs.Catalog.Contents
import Mathlib.Data.List.Induction

/-! # Storing: the operations of a catalog as functions of its contents

What `put`, `putAll`, `addBatch` and `addItems` leave in a catalog, and what they report, in terms
of `newItems`, `clashing` and `latest`:

* `putAll_eq`: storing a list, identities that are there keep their places;
* `putAll_putAll_self`: a list stored again changes nothing;
* `putAll_nil_eq`: a reset keeps every identity once;
* `addBatch_unforced`, `addBatch_forced`: a batch, without and with force. -/

namespace ItemCatalog.Catalog

/-! ### One item -/

theorem contains_iff (c : Catalog) (id : String) : c.contains id = true ↔ id ∈ c.ids := by
  simp [contains, ids]

theorem putItem_of_not_mem {item : Item} {l : List Item} (h : item.id ∉ l.map Item.id) :
    putItem item l = l ++ [item] := by
  induction l with
  | nil => rfl
  | cons i rest ih =>
    rw [List.map_cons, List.mem_cons, not_or] at h
    rw [putItem, if_neg (Ne.symm h.1), ih h.2, List.cons_append]

theorem putItem_of_mem {item : Item} {l : List Item} (hl : (l.map Item.id).Nodup)
    (h : item.id ∈ l.map Item.id) :
    putItem item l = l.map fun i => if i.id = item.id then item else i := by
  induction l with
  | nil => simp at h
  | cons i rest ih =>
    rw [List.map_cons, List.nodup_cons] at hl
    rw [putItem, List.map_cons]
    by_cases hi : i.id = item.id
    · have hrest : (rest.map fun j => if j.id = item.id then item else j) = rest.map id := by
        refine List.map_congr_left fun j hj => if_neg fun hid => hl.1 ?_
        rw [hi, ← hid]
        exact List.mem_map_of_mem hj
      rw [if_pos hi, if_pos hi, hrest, List.map_id]
    · rw [List.map_cons, List.mem_cons] at h
      rw [if_neg hi, if_neg hi, ih hl.2 (h.resolve_left (Ne.symm hi))]

theorem putItem_ids (item : Item) (l : List Item) : (putItem item l).map Item.id =
    if item.id ∈ l.map Item.id then l.map Item.id else l.map Item.id ++ [item.id] := by
  induction l with
  | nil => rfl
  | cons i rest ih =>
    rw [putItem]
    by_cases hi : i.id = item.id
    · rw [if_pos hi, List.map_cons, List.map_cons, if_pos (hi ▸ List.mem_cons_self), hi]
    · rw [if_neg hi, List.map_cons, ih, List.map_cons]
      have hmem : item.id ∈ i.id :: rest.map Item.id ↔ item.id ∈ rest.map Item.id := by
        simp [Ne.symm hi]
      simp only [hmem]
      split_ifs <;> rfl

theorem putItem_nodup (item : Item) {l : List Item} (hl : (l.map Item.id).Nodup) :
    ((putItem item l).map Item.id).Nodup := by
  rw [putItem_ids]
  split_ifs with h
  · exact hl
  · exact List.concat_eq_append ▸ List.Nodup.concat h hl

/-! ### A list of items -/

theorem putAll_cons (l : List Item) (a : Item) (rest : List Item) :
    putAll l (a :: rest) = putAll (putItem a l) rest := rfl

/-- **Storing a list:** identities that are there keep their places, new ones follow in the order in
which they first came, and all have their latest values. -/
theorem putAll_eq {l : List Item} (hl : (l.map Item.id).Nodup) (items : List Item) :
    putAll l items =
      l.map (latest items) ++ (newItems (l.map Item.id) items).map (latest items) := by
  induction items generalizing l with
  | nil =>
    have hid : l.map (latest []) = l.map id := List.map_congr_left fun i _ => latest_nil i
    rw [newItems, List.map_nil, List.append_nil, hid, List.map_id]
    rfl
  | cons a rest ih =>
    rw [putAll_cons, ih (putItem_nodup a hl), newItems, putItem_ids]
    by_cases ha : a.id ∈ l.map Item.id
    · -- The item goes into the place of the old one; nothing new comes in.
      have hold : (putItem a l).map (latest rest) = l.map (latest (a :: rest)) := by
        rw [putItem_of_mem hl ha, List.map_map]
        refine List.map_congr_left fun i _ => ?_
        by_cases hi : i.id = a.id
        · rw [Function.comp_apply, if_pos hi, latest_cons_same rest hi]
        · rw [Function.comp_apply, if_neg hi, latest_cons_other rest hi]
      have hnew : ∀ i ∈ newItems (l.map Item.id) rest, i.id ≠ a.id := fun i hi hid =>
        not_taken_of_mem_newItems hi (hid ▸ ha)
      rw [if_pos ha, if_pos ha, hold, map_latest_cons rest hnew]
    · -- The item goes to the end, where its later values reach it.
      have hold : ∀ i ∈ l, i.id ≠ a.id := fun i hi hid => ha (hid ▸ List.mem_map_of_mem hi)
      have hnew : ∀ i ∈ newItems (a.id :: l.map Item.id) rest, i.id ≠ a.id := fun i hi hid =>
        not_taken_of_mem_newItems hi (hid ▸ List.mem_cons_self)
      rw [if_neg ha, if_neg ha, putItem_of_not_mem ha, List.map_append,
        newItems_congr (mem_append_singleton_iff (l.map Item.id) a.id), List.map_singleton,
        map_latest_cons rest hold, List.map_cons, latest_cons_same rest rfl,
        map_latest_cons rest hnew, List.append_assoc, List.singleton_append]

theorem putAll_nil_eq (items : List Item) : putAll [] items = keptOnce items := by
  rw [putAll_eq (by simp) items, List.map_nil, List.nil_append, List.map_nil]
  rfl

theorem ofDocument_items (d : Document.LegacyDocument) : (ofDocument d).items = keptOnce d.items :=
  putAll_nil_eq d.items

/-! ### A list of items again -/

theorem mem_putItem_ids {id : String} {item : Item} {l : List Item} :
    id ∈ (putItem item l).map Item.id ↔ id ∈ l.map Item.id ∨ id = item.id := by
  rw [putItem_ids]
  split_ifs with h
  · refine ⟨Or.inl, ?_⟩
    rintro (hid | rfl)
    · exact hid
    · exact h
  · rw [List.mem_append, List.mem_singleton]

theorem mem_putAll_ids {id : String} {l items : List Item} :
    id ∈ (putAll l items).map Item.id ↔ id ∈ l.map Item.id ∨ id ∈ items.map Item.id := by
  induction items generalizing l with
  | nil => simp [putAll]
  | cons a rest ih => rw [putAll_cons, ih, mem_putItem_ids, List.map_cons, List.mem_cons, or_assoc]

theorem putAll_concat (l items : List Item) (z : Item) :
    putAll l (items ++ [z]) = putItem z (putAll l items) := by
  rw [putAll, List.foldl_append]
  rfl

/-- An item that is stored over another one leaves nothing of it. -/
theorem putItem_putItem_same {a b : Item} (h : b.id = a.id) (l : List Item) :
    putItem a (putItem b l) = putItem a l := by
  induction l with
  | nil => simp [putItem, h]
  | cons i rest ih =>
    by_cases hi : i.id = b.id
    · rw [putItem, if_pos hi, putItem, if_pos h, putItem, if_pos (hi.trans h)]
    · have hia : i.id ≠ a.id := fun hid => hi (hid.trans h.symm)
      rw [putItem, if_neg hi, putItem, if_neg hia, putItem, if_neg hia, ih]

/-- Where one of two identities is there, their order of storing does not matter. -/
theorem putItem_comm {a b : Item} (h : b.id ≠ a.id) {l : List Item} (ha : a.id ∈ l.map Item.id) :
    putItem a (putItem b l) = putItem b (putItem a l) := by
  induction l with
  | nil => simp at ha
  | cons i rest ih =>
    by_cases hb : i.id = b.id
    · have hia : i.id ≠ a.id := fun hid => h (hb.symm.trans hid)
      simp only [putItem, if_pos hb, if_neg h, if_neg hia]
    · by_cases hia : i.id = a.id
      · simp only [putItem, if_neg hb, if_pos hia, if_neg (Ne.symm h)]
      · rw [List.map_cons, List.mem_cons] at ha
        simp only [putItem, if_neg hb, if_neg hia, ih (ha.resolve_left (Ne.symm hia))]

/-- An item that is there and comes again in a list need not be stored before the list. -/
theorem putAll_putItem_of_mem {a : Item} {l items : List Item} (hl : a.id ∈ l.map Item.id)
    (h : a.id ∈ items.map Item.id) : putAll (putItem a l) items = putAll l items := by
  induction items generalizing l with
  | nil => simp at h
  | cons b rest ih =>
    rw [putAll_cons, putAll_cons]
    by_cases hb : a.id = b.id
    · rw [putItem_putItem_same hb]
    · rw [List.map_cons, List.mem_cons] at h
      have hlb : a.id ∈ (putItem b l).map Item.id := mem_putItem_ids.mpr (Or.inl hl)
      rw [← putItem_comm (Ne.symm hb) hl, ih hlb (h.resolve_left hb)]

/-- An item that does not come in a list of identities that are there may as well be stored after
the list. -/
theorem putAll_putItem_of_not_mem {a : Item} {l items : List Item}
    (hl : ∀ i ∈ items, i.id ∈ l.map Item.id) (h : a.id ∉ items.map Item.id) :
    putAll (putItem a l) items = putItem a (putAll l items) := by
  induction items generalizing l with
  | nil => rfl
  | cons b rest ih =>
    rw [List.map_cons, List.mem_cons, not_or] at h
    have hrest : ∀ i ∈ rest, i.id ∈ (putItem b l).map Item.id := fun i hi =>
      mem_putItem_ids.mpr (Or.inl (hl i (List.mem_cons_of_mem b hi)))
    rw [putAll_cons, putAll_cons, putItem_comm h.1 (hl b List.mem_cons_self), ih hrest h.2]

/-- **A list stored again** changes nothing, by induction on the list from its end. -/
theorem putAll_putAll_self (l items : List Item) :
    putAll (putAll l items) items = putAll l items := by
  induction items using List.reverseRecOn with
  | nil => rfl
  | append_singleton items z ih =>
    have hthere : ∀ i ∈ items, i.id ∈ (putAll l items).map Item.id := fun i hi =>
      mem_putAll_ids.mpr (Or.inr (List.mem_map_of_mem hi))
    rw [putAll_concat, putAll_concat]
    by_cases hz : z.id ∈ items.map Item.id
    · have hlz : z.id ∈ (putAll l items).map Item.id := mem_putAll_ids.mpr (Or.inr hz)
      rw [putAll_putItem_of_mem hlz hz, ih]
    · rw [putAll_putItem_of_not_mem hthere hz, ih, putItem_putItem_same rfl]

/-! ### A batch -/

/-- A batch without force, on its way. -/
theorem foldl_add_unforced (items : List Item) (b : Batch) :
    items.foldl (Batch.add false) b =
      { catalog := { b.catalog with items := b.catalog.items ++ newItems b.catalog.ids items }
        added := b.added ++ newItems b.catalog.ids items
        conflicts := b.conflicts ++ (clashing b.catalog.ids items).map Item.id } := by
  induction items generalizing b with
  | nil => simp [newItems, clashing]
  | cons a rest ih =>
    rw [List.foldl_cons, ih, newItems, clashing]
    by_cases ha : a.id ∈ b.catalog.ids
    · have hstep : Batch.add false b a = { b with conflicts := b.conflicts ++ [a.id] } := by
        simp [Batch.add, (contains_iff b.catalog a.id).mpr ha]
      simp [hstep, ha]
    · have hput : (b.catalog.put a).items = b.catalog.items ++ [a] := putItem_of_not_mem ha
      have hstep : Batch.add false b a =
          { b with catalog := b.catalog.put a, added := b.added ++ [a] } := by
        simp [Batch.add, (contains_iff b.catalog a.id).not.mpr ha]
      have hids : (b.catalog.put a).ids = b.catalog.ids ++ [a.id] := by
        rw [ids, hput, List.map_append]
        rfl
      rw [hstep, if_neg ha, if_neg ha]
      simp only [hput, hids, newItems_congr (mem_append_singleton_iff b.catalog.ids a.id),
        clashing_congr (mem_append_singleton_iff b.catalog.ids a.id), List.append_assoc,
        List.singleton_append]
      rfl

/-- A batch with force, on its way. -/
theorem foldl_add_forced (items : List Item) (b : Batch) :
    items.foldl (Batch.add true) b =
      { b with
        catalog := { b.catalog with items := putAll b.catalog.items items }
        added := b.added ++ items } := by
  induction items generalizing b with
  | nil => simp [putAll]
  | cons a rest ih =>
    have hstep : Batch.add true b a =
        { b with catalog := b.catalog.put a, added := b.added ++ [a] } := by
      simp [Batch.add]
    rw [List.foldl_cons, hstep, ih, putAll_cons]
    simp [put]

/-- **A batch without force:** the new items are added and the others are reported. -/
theorem addBatch_unforced (c : Catalog) (items : List Item) :
    c.addBatch items false =
      (if clashing c.ids items = [] then .ok (newItems c.ids items)
        else .error (.conflict ((clashing c.ids items).map Item.id) (newItems c.ids items)),
        { c with items := c.items ++ newItems c.ids items }) := by
  simp only [addBatch, foldl_add_unforced, List.nil_append]
  by_cases h : clashing c.ids items = [] <;> simp [h]

/-- **A batch with force:** every item is stored. -/
theorem addBatch_forced (c : Catalog) (items : List Item) :
    c.addBatch items true = (.ok items, { c with items := putAll c.items items }) := by
  simp [addBatch, foldl_add_forced]

/-- A batch added to an empty catalog succeeds exactly if no identity comes twice. -/
theorem addBatch_empty_nodup {items : List Item} (h : (items.map Item.id).Nodup) :
    empty.addBatch items false = (.ok items, ⟨items, none⟩) := by
  have hnew : newItems empty.ids items = items := (newItems_nil_eq_self_iff items).mpr h
  have hclash : clashing empty.ids items = [] := (clashing_eq_nil_iff _ items).mpr hnew
  rw [addBatch_unforced, if_pos hclash, hnew]
  rfl

theorem addBatch_empty_repeated {items : List Item} (h : ¬ (items.map Item.id).Nodup) :
    ∃ e, empty.addBatch items false = (.error e, ⟨newItems [] items, none⟩) := by
  have hnew : newItems empty.ids items ≠ items := fun hn =>
    h ((newItems_nil_eq_self_iff items).mp hn)
  have hclash : clashing empty.ids items ≠ [] := fun hc =>
    hnew ((clashing_eq_nil_iff _ items).mp hc)
  rw [addBatch_unforced, if_neg hclash]
  exact ⟨_, rfl⟩

end ItemCatalog.Catalog
