import ItemCatalog.Proofs.Catalog.Storing
import Mathlib.Algebra.BigOperators.Group.List.Lemmas
import Mathlib.Algebra.GroupWithZero.Nat

/-! # History: what operations leave in a catalog

A catalog is reset and added to, and an addition may be refused, as a whole or in part. What a list
of operations has stored since the last reset is its `history`, and the catalog lists what storing
the history item by item leaves (`run_items`). So the items have distinct identities, all were
handed in since the last reset, and what the catalog says about itself agrees with the list of its
items (`run_coherent`). -/

namespace ItemCatalog.Catalog

/-! ### Operations -/

/-- What can be done to a catalog: everything is replaced by items or by a legacy document, or an
item or the items of a structured text are added. -/
inductive Operation where
  | reset (items : List Item)
  | resetTo (document : Document.LegacyDocument)
  | addItem (item : Item) (force : Bool)
  | addItems (text : String) (force : Bool) (source : Option String)

/-- The items that an addition reports as added. -/
def reported : Except Fault (List Item) → List Item
  | .ok added => added
  | .error (.conflict _ added) => added
  | .error _ => []

namespace Operation

/-- The catalog after an operation, whether it was refused or not. -/
def after (c : Catalog) : Operation → Catalog
  | .reset items => ofItems items
  | .resetTo d => ofDocument d
  | .addItem item force => (c.addItem item force).2
  | .addItems text force source => (c.addItems text force source).2

/-- Whether an operation replaces everything. -/
def isReset : Operation → Bool
  | .reset _ => true
  | .resetTo _ => true
  | .addItem _ _ => false
  | .addItems _ _ _ => false

/-- The items that an operation hands in. -/
def handed : Operation → List Item
  | .reset items => items
  | .resetTo d => d.items
  | .addItem item _ => [item]
  | .addItems text _ source => (Document.structuredItems text source).toOption.getD []

/-- The items that an operation stores, one after the other: all that a reset hands in, and those
that an addition reports. -/
def stored (c : Catalog) : Operation → List Item
  | .reset items => items
  | .resetTo d => d.items
  | .addItem item force => reported ((c.addItem item force).1.map fun i => [i])
  | .addItems text force source =>
    match Document.structuredItems text source with
    | .ok items => reported (c.addBatch items force).1
    | .error _ => []

end Operation

/-- The catalog after operations on the empty one. -/
def run (ops : List Operation) : Catalog :=
  ops.foldl Operation.after empty

/-- A catalog, and the items that were stored in it since it was last reset, in that order. -/
structure Ledger where
  catalog : Catalog := empty
  stored : List Item := []

/-- The ledger after an operation. -/
def Ledger.perform (l : Ledger) (op : Operation) : Ledger where
  catalog := op.after l.catalog
  stored := (if op.isReset then [] else l.stored) ++ op.stored l.catalog

/-- The ledger of operations on the empty catalog. -/
def ledger (ops : List Operation) : Ledger :=
  ops.foldl Ledger.perform {}

/-- **The history:** the items that operations have stored since the last reset, in their order. -/
def history (ops : List Operation) : List Item :=
  (ledger ops).stored

/-! ### One operation -/

theorem putAll_append (l xs ys : List Item) : putAll l (xs ++ ys) = putAll (putAll l xs) ys :=
  List.foldl_append

/-- Storing the new ones among some items appends them. -/
theorem putAll_newItems (l items : List Item) :
    putAll l (newItems (l.map Item.id) items) = l ++ newItems (l.map Item.id) items := by
  induction items generalizing l with
  | nil => simp [newItems, putAll]
  | cons a rest ih =>
    rw [newItems]
    split_ifs with ha
    · exact ih l
    · have hids : (l ++ [a]).map Item.id = l.map Item.id ++ [a.id] := List.map_append
      have hnew : newItems (a.id :: l.map Item.id) rest =
          newItems ((l ++ [a]).map Item.id) rest := by
        rw [hids, newItems_congr (mem_append_singleton_iff (l.map Item.id) a.id)]
      rw [putAll_cons, putItem_of_not_mem ha, hnew, ih, List.append_assoc, List.singleton_append]

theorem reported_unforced (c : Catalog) (items : List Item) :
    reported (c.addBatch items false).1 = newItems c.ids items := by
  rw [addBatch_unforced]
  split_ifs <;> rfl

theorem reported_forced (c : Catalog) (items : List Item) :
    reported (c.addBatch items true).1 = items := by
  rw [addBatch_forced]
  rfl

/-- **What a batch leaves** is what storing the items that it reports leaves. -/
theorem addBatch_items (c : Catalog) (items : List Item) (force : Bool) :
    (c.addBatch items force).2.items = putAll c.items (reported (c.addBatch items force).1) := by
  cases force with
  | false =>
    rw [reported_unforced, addBatch_unforced]
    exact (putAll_newItems c.items items).symm
  | true => rw [reported_forced, addBatch_forced]

/-- **What an operation leaves** is what storing its items leaves, after a reset from the start. -/
theorem after_items (c : Catalog) (op : Operation) :
    (op.after c).items = putAll (if op.isReset then [] else c.items) (op.stored c) := by
  cases op with
  | reset items => rfl
  | resetTo d => rfl
  | addItem item force =>
    show (c.addItem item force).2.items =
      putAll c.items (reported ((c.addItem item force).1.map fun i => [i]))
    rw [addItem]
    split_ifs <;> rfl
  | addItems text force source =>
    simp only [Operation.after, Operation.stored, addItems]
    cases Document.structuredItems text source with
    | error e => rfl
    | ok items => exact addBatch_items c items force

/-- What an operation stores was handed in by it. -/
theorem stored_subset_handed {c : Catalog} {op : Operation} {i : Item} (h : i ∈ op.stored c) :
    i ∈ op.handed := by
  cases op with
  | reset items => exact h
  | resetTo d => exact h
  | addItem item force =>
    simp only [Operation.stored, addItem] at h
    split_ifs at h
    · exact absurd h List.not_mem_nil
    · exact h
  | addItems text force source =>
    simp only [Operation.stored] at h
    rw [Operation.handed]
    cases hitems : Document.structuredItems text source with
    | error e =>
      rw [hitems] at h
      exact absurd h List.not_mem_nil
    | ok items =>
      simp only [hitems] at h
      cases force with
      | false => exact (newItems_sublist c.ids items).subset (reported_unforced c items ▸ h)
      | true => exact reported_forced c items ▸ h

/-! ### Many operations -/

theorem ledger_concat (ops : List Operation) (op : Operation) :
    ledger (ops ++ [op]) = (ledger ops).perform op := by
  rw [ledger, List.foldl_append]
  rfl

/-- The catalog of a ledger is what the operations leave. -/
theorem ledger_catalog (ops : List Operation) : (ledger ops).catalog = run ops := by
  induction ops using List.reverseRecOn with
  | nil => rfl
  | append_singleton ops op ih =>
    rw [ledger_concat, run, List.foldl_append]
    exact congrArg (Operation.after · op) ih

/-- **What operations leave** is what storing their history leaves, by induction on the operations
from the last one back. -/
theorem run_items (ops : List Operation) : (run ops).items = putAll [] (history ops) := by
  rw [history, ← ledger_catalog]
  induction ops using List.reverseRecOn with
  | nil => rfl
  | append_singleton ops op ih =>
    rw [ledger_concat]
    simp only [Ledger.perform, after_items, putAll_append]
    split_ifs
    · rfl
    · rw [ih]

/-- An item that was handed in by an operation with no reset after it. -/
def HandedIn (ops : List Operation) (i : Item) : Prop :=
  ∃ before op later, ops = before ++ op :: later ∧ i ∈ op.handed ∧ ∀ o ∈ later, o.isReset = false

/-- What is in the history was handed in since the last reset. -/
theorem handedIn_of_mem_history {ops : List Operation} {i : Item} (h : i ∈ history ops) :
    HandedIn ops i := by
  induction ops using List.reverseRecOn with
  | nil => exact absurd h List.not_mem_nil
  | append_singleton ops op ih =>
    rw [history, ledger_concat, Ledger.perform, List.mem_append] at h
    rcases h with h | h
    · split_ifs at h with hreset
      · exact absurd h List.not_mem_nil
      · obtain ⟨before, o, later, rfl, hi, hlater⟩ := ih h
        refine ⟨before, o, later ++ [op], by simp, hi, fun o' ho' => ?_⟩
        rcases List.mem_append.mp ho' with ho' | ho'
        · exact hlater o' ho'
        · rw [List.mem_singleton.mp ho']
          exact Bool.not_eq_true _ ▸ hreset
    · exact ⟨ops, op, [], rfl, stored_subset_handed h, fun o ho => absurd ho List.not_mem_nil⟩

theorem latest_mem {items : List Item} {i : Item} (h : i ∈ items) : latest items i ∈ items := by
  unfold latest
  cases hl : lastOf? i.id items with
  | none => exact h
  | some j => exact (lastOf?_spec hl).1

theorem mem_of_mem_keptOnce {items : List Item} {i : Item} (h : i ∈ keptOnce items) :
    i ∈ items := by
  obtain ⟨j, hj, rfl⟩ := List.mem_map.mp h
  exact latest_mem ((newItems_sublist [] items).subset hj)

theorem mem_history_of_mem_run {ops : List Operation} {i : Item} (h : i ∈ (run ops).items) :
    i ∈ history ops :=
  mem_of_mem_keptOnce (by rwa [← putAll_nil_eq, ← run_items])

theorem run_nodup (ops : List Operation) : ((run ops).items.map Item.id).Nodup := by
  rw [run_items, putAll_nil_eq]
  exact keptOnce_nodup (history ops)

/-! ### What a catalog says about itself -/

theorem mem_types_step {acc : List ItemType} {i : Item} {t : ItemType} :
    t ∈ (if acc.contains i.itemType then acc else acc ++ [i.itemType]) ↔
      t ∈ acc ∨ t = i.itemType := by
  by_cases h : acc.contains i.itemType = true
  · rw [if_pos h]
    refine ⟨Or.inl, ?_⟩
    rintro (ht | rfl)
    · exact ht
    · exact List.contains_iff_mem.mp h
  · rw [if_neg h, List.mem_append, List.mem_singleton]

theorem nodup_types_step {acc : List ItemType} (hacc : acc.Nodup) (i : Item) :
    (if acc.contains i.itemType then acc else acc ++ [i.itemType]).Nodup := by
  by_cases h : acc.contains i.itemType = true
  · rwa [if_pos h]
  · rw [if_neg h, ← List.concat_eq_append]
    exact hacc.concat fun hi => h (List.contains_iff_mem.mpr hi)

/-- The kinds of items are those that some item has, each of them once. -/
theorem types_spec (items : List Item) :
    (types items).Nodup ∧ ∀ t, t ∈ types items ↔ t ∈ items.map Item.itemType := by
  induction items using List.reverseRecOn with
  | nil => exact ⟨List.nodup_nil, fun t => Iff.rfl⟩
  | append_singleton items i ih =>
    obtain ⟨hnd, hmem⟩ := ih
    rw [types, List.foldl_append]
    refine ⟨nodup_types_step hnd i, fun t => ?_⟩
    rw [List.foldl_cons, List.foldl_nil, mem_types_step, List.map_append, List.mem_append,
      List.map_singleton, List.mem_singleton]
    exact or_congr_left (hmem t)

/-- **The counts of items by kind** add up to the count of items. -/
theorem sum_countByType (c : Catalog) : (c.countByType.map Prod.snd).sum = c.items.length := by
  let kinds := c.items.map Item.itemType
  obtain ⟨hnd, hmem⟩ := types_spec c.items
  have hperm : (types c.items).Perm kinds.dedup :=
    (List.perm_ext_iff_of_nodup hnd kinds.nodup_dedup).mpr fun t => by
      rw [hmem, List.mem_dedup]
  have hcount : ∀ t, c.countType t = kinds.count t := fun t => by
    rw [List.count, List.countP_map]
    rfl
  calc (c.countByType.map Prod.snd).sum = ((types c.items).map fun t => kinds.count t).sum := by
        rw [countByType, List.map_map]
        exact congrArg List.sum (List.map_congr_left fun t _ => hcount t)
    _ = (kinds.dedup.map fun t => kinds.count t).sum := (hperm.map _).sum_eq
    _ = kinds.length := List.sum_map_count_dedup_eq_length kinds
    _ = c.items.length := List.length_map _

/-- The last item of a name is listed, and it is missing only if none is. -/
theorem get?_unpinned (c : Catalog) (name : String) :
    (c.get? name none = none ↔ ∀ i ∈ c.items, i.symbolicName ≠ name) ∧
      ∀ i, c.get? name none = some i → i ∈ c.items ∧ i.symbolicName = name := by
  constructor
  · simp [get?]
  · intro i hi
    simpa using List.mem_of_getLast? hi

/-- What a catalog says about itself agrees with the list of its items, in which no identity comes
twice: what it contains, how many they are, its statistics, and what it finds under a name. -/
structure Coherent (c : Catalog) : Prop where
  nodup : (c.items.map Item.id).Nodup
  contains_iff : ∀ id, c.contains id = true ↔ ∃ i ∈ c.items, i.id = id
  size_eq : c.size = c.items.length
  stats_items : c.stats.items = c.items.length
  stats_ids : c.stats.itemIds = c.items.map Item.id ∧ c.stats.itemIds.length = c.items.length
  stats_types : (c.stats.byType.map Prod.snd).sum = c.items.length
  get?_eq_none_iff : ∀ name, c.get? name none = none ↔ ∀ i ∈ c.items, i.symbolicName ≠ name
  get?_spec : ∀ name i, c.get? name none = some i → i ∈ c.items ∧ i.symbolicName = name

/-- **Every list of operations** on the empty catalog, with whatever force, repeated identities and
refusals, leaves a catalog whose views agree, and each of its items was handed in by an operation
that no reset came after. -/
theorem run_coherent (ops : List Operation) :
    Coherent (run ops) ∧ ∀ i ∈ (run ops).items, HandedIn ops i := by
  refine ⟨⟨run_nodup ops, fun id => ?_, rfl, rfl, ⟨rfl, List.length_map _⟩,
    sum_countByType (run ops), fun name => (get?_unpinned (run ops) name).1,
    fun name => (get?_unpinned (run ops) name).2⟩,
    fun i hi => handedIn_of_mem_history (mem_history_of_mem_run hi)⟩
  rw [contains_iff, ids, List.mem_map]

end ItemCatalog.Catalog
