import ItemCatalog.Proofs.Catalog.History

/-! # Batches: many items as single additions

Items come in batches: those of a text that is added, and those that a reset is given. `addEach`
hands the items of a batch in one by one and goes on after each refusal. A batch that is added
leaves and reports what these single additions leave and report (`addBatch_eq_addEach`), and a reset
leaves what forced single additions to nothing leave. Forced additions overwrite: what they leave is
told identity by identity (`Overwritten`, `putAll_overwrites`). -/

namespace ItemCatalog.Catalog

/-! ### Single additions -/

/-- **Items added one by one,** going on after each refusal: what every addition gave, and the
catalog that is left. -/
def addEach (force : Bool) : Catalog → List Item → List (Except Fault Item) × Catalog
  | c, [] => ([], c)
  | c, a :: rest =>
    let (given, next) := c.addItem a force
    let (others, last) := addEach force next rest
    (given :: others, last)

/-- The items whose single additions succeeded. -/
def granted (batch : List Item) (results : List (Except Fault Item)) : List Item :=
  ((batch.zip results).filter fun e => e.2.isOk).map Prod.fst

/-- The items whose single additions were refused. -/
def refused (batch : List Item) (results : List (Except Fault Item)) : List Item :=
  ((batch.zip results).filter fun e => !e.2.isOk).map Prod.fst

/-- What is said about a batch as a whole: its items, or the identities of those that were refused,
together with the items that were added. -/
def summary (batch : List Item) (results : List (Except Fault Item)) : Except Fault (List Item) :=
  if refused batch results = [] then .ok (granted batch results)
  else .error (.conflict ((refused batch results).map Item.id) (granted batch results))

section Lists

variable (a : Item) (batch : List Item) (results : List (Except Fault Item))

theorem granted_cons (r : Except Fault Item) : granted (a :: batch) (r :: results) =
    if r.isOk then a :: granted batch results else granted batch results := by
  rw [granted, List.zip_cons_cons, List.filter_cons]
  split_ifs <;> rfl

theorem refused_cons (r : Except Fault Item) : refused (a :: batch) (r :: results) =
    if r.isOk then refused batch results else a :: refused batch results := by
  rw [refused, List.zip_cons_cons, List.filter_cons]
  cases r.isOk <;> rfl

end Lists

/-! ### A batch -/

/-- A batch on its way has put aside what single additions give, by induction on what is left of
it. -/
theorem foldl_add_eq_addEach (force : Bool) (batch : List Item) (b : Batch) :
    batch.foldl (Batch.add force) b =
      let each := b.catalog.addEach force batch
      { catalog := each.2
        added := b.added ++ granted batch each.1
        conflicts := b.conflicts ++ (refused batch each.1).map Item.id } := by
  induction batch generalizing b with
  | nil => simp [addEach, granted, refused]
  | cons a rest ih =>
    rw [List.foldl_cons, ih]
    simp only [addEach, granted_cons, refused_cons]
    by_cases h : (b.catalog.contains a.id && !force) = true
    · have hone : b.catalog.addItem a force = (.error (.conflict [a.id] []), b.catalog) := if_pos h
      have hstep : b.add force a = { b with conflicts := b.conflicts ++ [a.id] } := if_pos h
      simp [hone, hstep, Except.isOk, Except.toBool]
    · have hone : b.catalog.addItem a force = (.ok a, b.catalog.put a) := if_neg h
      have hstep : b.add force a =
          { b with catalog := b.catalog.put a, added := b.added ++ [a] } := if_neg h
      simp [hone, hstep, Except.isOk, Except.toBool]

/-- **A batch** leaves and reports what single additions of its items leave and report. -/
theorem addBatch_eq_addEach (c : Catalog) (batch : List Item) (force : Bool) :
    c.addBatch batch force =
      (summary batch (c.addEach force batch).1, (c.addEach force batch).2) := by
  rw [addBatch, foldl_add_eq_addEach]
  simp only [List.nil_append, summary]
  by_cases h : refused batch (c.addEach force batch).1 = [] <;> simp [h]

/-- A single addition is refused by a conflict of its own. -/
theorem addEach_refusals (c : Catalog) (batch : List Item) (force : Bool) :
    ∀ e ∈ batch.zip (c.addEach force batch).1, ∀ f, e.2 = .error f → f = .conflict [e.1.id] [] := by
  induction batch generalizing c with
  | nil => simp
  | cons a rest ih =>
    intro e he f hf
    rcases List.mem_cons.mp he with rfl | he
    · change (c.addItem a force).1 = .error f at hf
      rw [addItem] at hf
      split_ifs at hf
      cases hf
      rfl
    · exact ih _ e he f hf

/-! ### Force -/

theorem addItem_forced (c : Catalog) (a : Item) : c.addItem a true = (.ok a, c.put a) := by
  rw [addItem, Bool.not_true, Bool.and_false]
  rfl

/-- Forced additions store their items one after the other. -/
theorem addEach_forced (c : Catalog) (batch : List Item) :
    (c.addEach true batch).2 = { c with items := putAll c.items batch } := by
  induction batch generalizing c with
  | nil => rfl
  | cons a rest ih =>
    simp only [addEach, addItem_forced, ih]
    rfl

/-- The item under an identity. -/
def under? (id : String) (items : List Item) : Option Item :=
  items.find? fun i => i.id == id

theorem under?_cons (id : String) (i : Item) (rest : List Item) :
    under? id (i :: rest) = if i.id = id then some i else under? id rest := by
  rw [under?, List.find?_cons, beq_eq_decide, ← under?]
  by_cases h : i.id = id <;> simp [h]

theorem under?_putItem (id : String) (a : Item) (l : List Item) :
    under? id (putItem a l) = if a.id = id then some a else under? id l := by
  induction l with
  | nil => rw [putItem, under?_cons]
  | cons i rest ih =>
    rw [putItem]
    by_cases hi : i.id = a.id
    · rw [if_pos hi, under?_cons, under?_cons, hi]
      split_ifs <;> rfl
    · rw [if_neg hi, under?_cons, under?_cons, ih]
      by_cases ha : a.id = id
      · rw [if_neg (ha ▸ hi), if_pos ha, if_pos ha]
      · rw [if_neg ha, if_neg ha]

/-- The item that storing a list leaves under an identity is the last one of the list that has it,
by induction on the list from its end. -/
theorem under?_putAll (id : String) (l batch : List Item) : under? id (putAll l batch) =
    (batch.filter fun i => i.id == id).getLast?.or (under? id l) := by
  induction batch using List.reverseRecOn with
  | nil => rfl
  | append_singleton batch z ih =>
    rw [putAll_concat, under?_putItem, List.filter_append]
    by_cases hz : z.id = id
    · simp [hz]
    · simp [hz, ih]

theorem eraseDups_concat (l : List String) (z : String) :
    (l ++ [z]).eraseDups = if z ∈ l then l.eraseDups else l.eraseDups ++ [z] := by
  rw [List.eraseDups_append]
  by_cases hz : z ∈ l <;> simp [List.removeAll, hz, List.eraseDups_cons]

/-- The identities that storing a list leaves, by induction on the list from its end. -/
theorem putAll_ids (l batch : List Item) : (putAll l batch).map Item.id = l.map Item.id ++
    ((batch.map Item.id).filter fun id => id ∉ l.map Item.id).eraseDups := by
  induction batch using List.reverseRecOn with
  | nil => simp [putAll]
  | append_singleton batch z ih =>
    rw [putAll_concat, putItem_ids, List.map_append, List.filter_append, List.map_singleton]
    simp only [mem_putAll_ids]
    by_cases hl : z.id ∈ l.map Item.id
    · rw [if_pos (Or.inl hl), List.filter_cons_of_neg (by simpa using hl), List.filter_nil,
        List.append_nil, ih]
    · have hnew : z.id ∈ (batch.map Item.id).filter (fun id => id ∉ l.map Item.id) ↔
          z.id ∈ batch.map Item.id := by
        rw [List.mem_filter, and_iff_left (decide_eq_true hl)]
      rw [List.filter_cons_of_pos (by simpa using hl), List.filter_nil, eraseDups_concat]
      simp only [hnew, hl, false_or]
      split_ifs
      · exact ih
      · rw [ih, List.append_assoc]

/-- What forced additions of a batch leave of a catalog. The identities that were there keep their
places, and new ones follow in the order in which they first come in the batch. Under an identity of
the batch is the last item of the batch that has it, and under any other identity what was there
before. -/
structure Overwritten (c : Catalog) (batch : List Item) (after : Catalog) : Prop where
  ids : after.ids = c.ids ++ ((batch.map Item.id).filter fun id => id ∉ c.ids).eraseDups
  latest : ∀ id ∈ batch.map Item.id,
    under? id after.items = (batch.filter fun i => i.id == id).getLast?
  others : ∀ id, id ∉ batch.map Item.id → under? id after.items = under? id c.items

theorem putAll_overwrites (c : Catalog) (batch : List Item) :
    Overwritten c batch { c with items := putAll c.items batch } where
  ids := putAll_ids c.items batch
  latest id h := by
    rw [under?_putAll]
    cases hlast : (batch.filter fun i => i.id == id).getLast? with
    | some i => rfl
    | none =>
      obtain ⟨i, hi, hid⟩ := List.mem_map.mp h
      have hmem : i ∈ batch.filter fun i => i.id == id :=
        List.mem_filter.mpr ⟨hi, beq_iff_eq.mpr hid⟩
      rw [List.getLast?_eq_none_iff.mp hlast] at hmem
      exact absurd hmem List.not_mem_nil
  others id h := by
    have hnone : (batch.filter fun i => i.id == id) = [] :=
      List.filter_eq_nil_iff.mpr fun i hi hid =>
        h (List.mem_map.mpr ⟨i, hi, beq_iff_eq.mp hid⟩)
    rw [under?_putAll, hnone]
    rfl

/-! ### Texts and resets -/

/-- **Batches are single additions.** Adding the items of a text, with force or without, leaves the
catalog that their single additions leave, and reports the items that these refuse, each of them
by a conflict of its own. With force nothing is refused, and the items of the text overwrite what
was there. A reset leaves the items that forced single additions to the emptied catalog leave, and
no name of a document. -/
theorem addItems_eq_addEach (c : Catalog) (text : String) (source : Option String) (w : Wording) :
    (match Document.structuredItems text source w with
      | .error e => ∀ force, c.addItems text force source w = (.error e, c)
      | .ok batch =>
        (∀ force, c.addItems text force source w =
            (summary batch (c.addEach force batch).1, (c.addEach force batch).2) ∧
          ∀ e ∈ batch.zip (c.addEach force batch).1, ∀ f, e.2 = .error f →
            f = .conflict [e.1.id] []) ∧
        (c.addItems text true source w).1 = .ok batch ∧
        Overwritten c batch (c.addItems text true source w).2) ∧
    ∀ items, (Operation.after c (.reset items)).items =
        (addEach true { c with items := [] } items).2.items ∧
      (Operation.after c (.reset items)).documentName = none := by
  refine ⟨?_, fun items => ⟨?_, rfl⟩⟩
  · unfold addItems
    cases Document.structuredItems text source w with
    | error e => exact fun _ => rfl
    | ok batch =>
      have hforced := addBatch_forced c batch
      have hafter : (c.addBatch batch true).2 = { c with items := putAll c.items batch } :=
        congrArg Prod.snd hforced
      refine ⟨fun force => ⟨addBatch_eq_addEach c batch force, addEach_refusals c batch force⟩,
        congrArg Prod.fst hforced, ?_⟩
      exact hafter ▸ putAll_overwrites c batch
  · rw [addEach_forced]
    rfl

end ItemCatalog.Catalog
