import ItemCatalog.Proofs.Catalog.Storing

/-! # Additions: the items of a text, added without force

Adding tests each item against the very catalog that it extends. Seen from the outside, an item of a
batch conflicts if its identity is taken, or belongs to an item before it in the batch
(`Conflicts`). This splits the batch in two (`accepted`, `rejected`), each in the order of the batch
and together all of it. `addItems_unforced` says what an addition leaves and reports in these terms,
for every text. -/

namespace ItemCatalog.Catalog

/-! ### Items that conflict -/

section Split

variable (c : Catalog) (batch : List Item)

/-- **An item of a batch conflicts**, seen with its place: its identity is taken, or belongs to an
item before it. -/
def Conflicts (e : Item × Nat) : Prop :=
  e.1.id ∈ c.ids ∨ ∃ earlier ∈ batch.take e.2, earlier.id = e.1.id

instance (e : Item × Nat) : Decidable (c.Conflicts batch e) :=
  inferInstanceAs (Decidable (_ ∨ _))

/-- The items of a batch that conflict. -/
def rejected : List Item :=
  (batch.zipIdx.filter fun e => c.Conflicts batch e).map Prod.fst

/-- The items of a batch that do not. -/
def accepted : List Item :=
  (batch.zipIdx.filter fun e => ¬ c.Conflicts batch e).map Prod.fst

end Split

variable {c : Catalog}

/-- The item behind a part of a batch conflicts if its identity is among those that are taken by
then. -/
theorem conflicts_iff {taken : List String} {before : List Item}
    (htaken : ∀ id, id ∈ taken ↔ id ∈ c.ids ∨ ∃ i ∈ before, i.id = id) (a : Item)
    (rest : List Item) :
    c.Conflicts (before ++ a :: rest) (a, before.length) ↔ a.id ∈ taken := by
  rw [Conflicts, List.take_left, htaken]

/-- What is taken after one more item. -/
theorem mem_taken_concat {taken taken' : List String} {before : List Item} {a : Item}
    (htaken : ∀ id, id ∈ taken ↔ id ∈ c.ids ∨ ∃ i ∈ before, i.id = id)
    (hcons : ∀ id, id ∈ taken' ↔ id ∈ taken ∨ id = a.id) (id : String) :
    id ∈ taken' ↔ id ∈ c.ids ∨ ∃ i ∈ before ++ [a], i.id = id := by
  rw [hcons, htaken, or_assoc]
  refine or_congr_right ⟨?_, ?_⟩
  · rintro (⟨i, hi, hid⟩ | rfl)
    · exact ⟨i, List.mem_append_left _ hi, hid⟩
    · exact ⟨a, List.mem_append_right _ List.mem_cons_self, rfl⟩
  · rintro ⟨i, hi, rfl⟩
    rcases List.mem_append.mp hi with hi | hi
    · exact Or.inl ⟨i, hi, rfl⟩
    · exact Or.inr (by rw [List.mem_singleton.mp hi])

/-- **The two parts of a batch** from a place on, by induction on what is left of it: the identities
taken by then are those of the catalog and of the items before the place. -/
theorem sift_eq {taken : List String} {before : List Item}
    (htaken : ∀ id, id ∈ taken ↔ id ∈ c.ids ∨ ∃ i ∈ before, i.id = id) (rest : List Item) :
    newItems taken rest = ((rest.zipIdx before.length).filter fun e =>
        ¬ c.Conflicts (before ++ rest) e).map Prod.fst ∧
      clashing taken rest = ((rest.zipIdx before.length).filter fun e =>
        c.Conflicts (before ++ rest) e).map Prod.fst := by
  induction rest generalizing taken before with
  | nil => exact ⟨rfl, rfl⟩
  | cons a rest ih =>
    have hplace : before.length + 1 = (before ++ [a]).length := by simp
    have hbatch : before ++ a :: rest = (before ++ [a]) ++ rest := by simp
    have hhead := conflicts_iff htaken a rest
    rw [newItems, clashing, List.zipIdx_cons]
    by_cases ha : a.id ∈ taken
    · have hcons : ∀ id, id ∈ taken ↔ id ∈ taken ∨ id = a.id := fun id =>
        ⟨Or.inl, fun h => h.elim (·) fun hid => hid ▸ ha⟩
      have htaken' := mem_taken_concat htaken hcons
      obtain ⟨hnew, hclash⟩ := ih htaken'
      have hconflict : c.Conflicts (before ++ a :: rest) (a, before.length) := hhead.mpr ha
      rw [if_pos ha, if_pos ha, List.filter_cons_of_neg (by simpa using hconflict),
        List.filter_cons_of_pos (by simpa using hconflict), hplace, hbatch, hnew, hclash]
      exact ⟨rfl, rfl⟩
    · have hcons : ∀ id, id ∈ a.id :: taken ↔ id ∈ taken ∨ id = a.id := fun id => by
        rw [List.mem_cons, or_comm]
      have htaken' := mem_taken_concat htaken hcons
      obtain ⟨hnew, hclash⟩ := ih htaken'
      have hconflict : ¬ c.Conflicts (before ++ a :: rest) (a, before.length) := hhead.not.mpr ha
      rw [if_neg ha, if_neg ha, List.filter_cons_of_pos (by simpa using hconflict),
        List.filter_cons_of_neg (by simpa using hconflict), hplace, hbatch, hnew, hclash]
      exact ⟨rfl, rfl⟩

/-- The items that storing finds new are those that do not conflict, and it reports the others. -/
theorem sift_batch (c : Catalog) (batch : List Item) :
    newItems c.ids batch = c.accepted batch ∧ clashing c.ids batch = c.rejected batch := by
  have htaken : ∀ id, id ∈ c.ids ↔ id ∈ c.ids ∨ ∃ i ∈ ([] : List Item), i.id = id := by simp
  exact sift_eq htaken batch

/-- The two parts are all of the batch. -/
theorem accepted_append_rejected (c : Catalog) (batch : List Item) :
    (c.accepted batch ++ c.rejected batch).Perm batch := by
  have hsplit := List.filter_append_perm (fun e => decide (¬ c.Conflicts batch e)) batch.zipIdx
  have hmap := hsplit.map Prod.fst
  rw [List.map_append, List.zipIdx_map_fst] at hmap
  refine (List.Perm.of_eq ?_).trans hmap
  simp only [accepted, rejected, decide_not, Bool.not_not]

/-! ### Adding -/

/-- A batch, added without force, in terms of its two parts. -/
theorem addBatch_eq (c : Catalog) (batch : List Item) : c.addBatch batch false =
    (if c.rejected batch = [] then .ok batch
      else .error (.conflict ((c.rejected batch).map Item.id) (c.accepted batch)),
      { c with items := c.items ++ c.accepted batch }) := by
  obtain ⟨hnew, hclash⟩ := sift_batch c batch
  rw [addBatch_unforced, hnew, hclash]
  by_cases hall : c.rejected batch = []
  · have hbatch : c.accepted batch = batch := by
      rw [← hnew]
      exact (clashing_eq_nil_iff c.ids batch).mp (hclash.trans hall)
    rw [if_pos hall, if_pos hall, hbatch]
  · rw [if_neg hall, if_neg hall]

/-- **The items of a text, added without force.** A text that cannot be read changes nothing. Of one
that can, the items that do not conflict follow what the catalog holds, which stays as it is; if all
are added they are given back, and otherwise the identities of the others are reported, together
with the items that were added. -/
theorem addItems_unforced (c : Catalog) (text : String) (source : Option String) (w : Wording) :
    match Document.structuredItems text source w with
    | .error e => c.addItems text false source w = (.error e, c)
    | .ok batch =>
      (c.addItems text false source w).2 = { c with items := c.items ++ c.accepted batch } ∧
      (c.addItems text false source w).1 =
        (if c.rejected batch = [] then .ok batch
          else .error (.conflict ((c.rejected batch).map Item.id) (c.accepted batch))) ∧
      (c.accepted batch ++ c.rejected batch).Perm batch := by
  unfold addItems
  cases Document.structuredItems text source w with
  | error e => rfl
  | ok batch =>
    have hbatch := addBatch_eq c batch
    exact ⟨congrArg Prod.snd hbatch, congrArg Prod.fst hbatch, accepted_append_rejected c batch⟩

end ItemCatalog.Catalog
