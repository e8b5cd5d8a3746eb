import ItemCatalog.Proofs.Value.Closing
import ItemCatalog.Proofs.Yaml.Keys
import Mathlib.Data.List.Forall2

/-! # Contents: from the nodes of a graph to the parts of its value

The value of a graph is unfolded from the contents of its nodes. A part of it may stand inside
containers that contain themselves, and is closed before it is looked at. `Stands` says of a value
that it comes about in this way from a node; then its elements and entries stand for the nodes in
the content of the node (`Stands.list`, `Stands.map`), so that a path in the value is a path in the
graph. A scalar of a document has no content but the value of its text (`Graph.filled_values`). -/

namespace ItemCatalog.Yaml

/-! ### The contents of a graph -/

/-- The fuel with which the nodes of a graph are filled. -/
def Graph.fuel (g : Graph) : Nat :=
  let edges := (g.nodes.toList.map fun
    | .scalar _ _ => 0
    | .sequence _ items => items.length
    | .mapping _ entries => 2 * entries.length).foldl (· + ·) 0
  (g.nodes.size + edges + 2) * (g.nodes.size + 2)

/-- **The contents** that the nodes of a graph are given. -/
def Graph.filled (g : Graph) : Except Fault (Array (Option Content)) := do
  let (_, s) ← (do
    let _ ← Build.construct g.root
    Build.fillAll g.fuel (g.nodes.size + 1) : Build Unit).run
      ⟨g.nodes, Array.replicate g.nodes.size none, []⟩
  return s.contents

/-- The containers of a graph that contain themselves. -/
def Graph.knots (g : Graph) (contents : Array (Option Content)) : List Nat :=
  if g.cyclic then (List.range g.nodes.size).filter (onCycle contents g.fuel) else []

theorem Graph.value_eq (g : Graph) : g.value = do
    let contents ← g.filled
    return unfold contents (g.knots contents) (g.nodes.size + 1) [] g.root := by
  unfold Graph.value Graph.filled
  rw [bind_assoc]
  rfl

/-- **A scalar of a type of texts** is given no content but the value of its text. -/
theorem Graph.filled_values {g : Graph} {contents : Array (Option Content)}
    (h : g.filled = .ok contents) {id : Nat} {tag : Tag} {text : String} {c : Content}
    (hnode : Build.IsTyped g.nodes id tag text) (hc : contents[id]?.getD none = some c) :
    Build.IsValue tag text c := by
  have hvalues := ((Build.construct_fits g.root).bind fun _ _ => Build.fillAll_fits _ _).result
    (S := fun contents => ∀ c, contents[id]? = some (some c) → Build.IsValue tag text c)
    (Build.sound_start g.nodes)
    (fun _ t _ ht hcontents => by
      cases hcontents
      exact fun c => ht.values id tag text c hnode) h
  rcases hget : contents[id]? with _ | o
  · rw [hget] at hc
    cases hc
  · rw [hget] at hc
    obtain rfl : o = some c := hc
    exact hvalues c hget

/-! ### Values of contents -/

/-- The value of a content whose nodes have values. -/
def valueOf (part : Nat → Value) : Option Content → Value
  | some (.scalar s) => .scalar s
  | some (.list items) => .list (items.map part)
  | some (.pairs items) => .list (items.map fun e => .pair (part e.1) (part e.2))
  | some (.set items) => .set items
  | some (.map entries) => .map (entries.map fun e => (e.1, part e.2))
  | some .pending | none => .null

section Unfolding
variable (contents : Array (Option Content)) (knots : List Nat)

theorem unfold_succ (fuel : Nat) (path : List Nat) (id : Nat) :
    unfold contents knots (fuel + 1) path id =
      if path.contains id then .again id
      else if knots.contains id then
        .knot id (valueOf (unfold contents knots fuel (id :: path)) (contents[id]?.getD none))
      else valueOf (unfold contents knots fuel path) (contents[id]?.getD none) := by
  rw [unfold]
  split_ifs with hpath hknot
  · rfl
  · simp only [hknot, if_true]
    rfl
  · simp only [hknot, Bool.false_eq_true, if_false]
    rfl

theorem free_valueOf {part : Nat → Value} {l : Nat} {P : Prop}
    (hpart : ∀ id, (part id).Free l → P) {c : Option Content}
    (h : (valueOf part c).Free l) : P := by
  unfold valueOf at h
  split at h
  · exact h.elim
  · obtain ⟨v, hv, hl⟩ := Value.freeInAll_iff.mp h
    obtain ⟨id, -, rfl⟩ := List.mem_map.mp hv
    exact hpart id hl
  · obtain ⟨v, hv, hl⟩ := Value.freeInAll_iff.mp h
    obtain ⟨e, -, rfl⟩ := List.mem_map.mp hv
    exact hl.elim (hpart e.1) (hpart e.2)
  · exact h.elim
  · obtain ⟨v, hv, hl⟩ := Value.freeInEntries_iff.mp h
    obtain ⟨e, -, rfl⟩ := List.mem_map.mp hv
    exact hpart e.2 hl
  · exact h.elim
  · exact h.elim

/-- Only the labels of the path are free in what is unfolded, by induction on the depth. -/
theorem mem_of_free_unfold {fuel : Nat} {path : List Nat} {id l : Nat}
    (h : (unfold contents knots fuel path id).Free l) : l ∈ path := by
  induction fuel generalizing path id with
  | zero => exact h.elim
  | succ fuel ih =>
    rw [unfold_succ] at h
    split_ifs at h with hagain
    · obtain rfl : l = id := h
      exact List.contains_iff_mem.mp hagain
    · obtain ⟨hne, hbody⟩ := h
      exact (List.mem_cons.mp (free_valueOf (fun id => ih) hbody)).resolve_left hne
    · exact free_valueOf (fun id => ih) h

end Unfolding

/-! ### Parts inside containers -/

section Parts
variable {contents : Array (Option Content)} {knots : List Nat}

/-- The containers around a part, the innermost first, each of them as it is inside the next
ones. -/
inductive Opened (contents : Array (Option Content)) (knots : List Nat) :
    List (Nat × Value) → Prop where
  | nil : Opened contents knots []
  | cons {around : List (Nat × Value)} {id : Nat} (h : Opened contents knots around)
    (hid : id ∉ around.map Prod.fst) (fuel : Nat) :
    Opened contents knots
      ((id, (unfold contents knots fuel (around.map Prod.fst) id).closeMany around) :: around)

/-- **A value stands for a node:** it is unfolded from the node inside some containers, and
closed. -/
def Stands (contents : Array (Option Content)) (knots : List Nat) (v : Value) (id : Nat) : Prop :=
  ∃ around fuel, Opened contents knots around ∧
    v = (unfold contents knots fuel (around.map Prod.fst) id).closeMany around

theorem stands_root (fuel id : Nat) :
    Stands contents knots (unfold contents knots fuel [] id) id :=
  ⟨[], fuel, .nil, rfl⟩

variable {around : List (Nat × Value)}

/-- None of the containers around a part is free in it once they are put back. -/
theorem Opened.free (h : Opened contents knots around) {v : Value} {l : Nat}
    (hl : (v.closeMany around).Free l) : v.Free l ∧ l ∉ around.map Prod.fst := by
  induction h generalizing v with
  | nil => exact ⟨hl, List.not_mem_nil⟩
  | @cons around id h hid fuel ih =>
    rcases Value.free_close _ hl with ⟨hfree, hne⟩ | hfree
    · obtain ⟨hv, hmem⟩ := ih hfree
      exact ⟨hv, by simp [hne, hmem]⟩
    · -- The container that is put back was closed before.
      obtain ⟨hunfold, hmem⟩ := ih hfree
      exact absurd (mem_of_free_unfold _ _ hunfold) hmem

theorem Stands.not_free {v : Value} {id : Nat} (h : Stands contents knots v id) (l : Nat) :
    ¬ v.Free l := by
  obtain ⟨around, fuel, hopened, rfl⟩ := h
  intro hl
  obtain ⟨hunfold, hmem⟩ := hopened.free hl
  exact hmem (mem_of_free_unfold _ _ hunfold)

/-- In the place of its label a container comes again as it is inside the containers around it. -/
theorem Opened.again (h : Opened contents knots around) {id : Nat}
    (hid : id ∈ around.map Prod.fst) :
    ∃ outer fuel, Opened contents knots outer ∧ id ∉ outer.map Prod.fst ∧
      (Value.again id).closeMany around =
        (unfold contents knots fuel (outer.map Prod.fst) id).closeMany outer := by
  induction h with
  | nil => cases hid
  | @cons around i h hi fuel ih =>
    by_cases heq : id = i
    · subst heq
      refine ⟨around, fuel, h, hi, ?_⟩
      rw [Value.closeMany_cons, Value.closeMany_again _ hi, Value.close, if_pos rfl]
    · obtain ⟨outer, fuel', houter, hid', hagain⟩ :=
        ih ((List.mem_cons.mp hid).resolve_left heq)
      refine ⟨outer, fuel', houter, hid', ?_⟩
      have hstands : Stands contents knots ((Value.again id).closeMany around) id :=
        ⟨outer, fuel', houter, hagain⟩
      rw [Value.closeMany_cons, Value.close_of_not_free _ (hstands.not_free i), hagain]

/-- The value of a content carries no label of its own. -/
theorem open_valueOf (part : Nat → Value) (c : Option Content) :
    ((valueOf part c).closeMany around).open? = (valueOf part c).closeMany around := by
  unfold valueOf
  split <;> simp only [Value.closeMany_scalar, Value.closeMany_list, Value.closeMany_set,
    Value.closeMany_map] <;> rfl

/-- **An opened value** is made of the content of its node, if the unfolding goes that far. -/
theorem Stands.open {v : Value} {id : Nat} (h : Stands contents knots v id) :
    v.open? = .null ∨ ∃ around fuel, Opened contents knots around ∧
      v.open? = (valueOf (unfold contents knots fuel (around.map Prod.fst))
        (contents[id]?.getD none)).closeMany around := by
  -- The node is not among the containers, unless only its label is left.
  obtain ⟨around, fuel, hopened, hid, rfl⟩ : ∃ around fuel, Opened contents knots around ∧
      id ∉ around.map Prod.fst ∧
      v = (unfold contents knots fuel (around.map Prod.fst) id).closeMany around := by
    obtain ⟨around, fuel, hopened, hv⟩ := h
    by_cases hid : id ∈ around.map Prod.fst
    · cases fuel with
      | zero => exact ⟨[], 0, .nil, List.not_mem_nil, hv.trans (Value.closeMany_scalar _ _)⟩
      | succ fuel =>
        rw [unfold_succ, if_pos (List.contains_iff_mem.mpr hid)] at hv
        obtain ⟨outer, fuel', houter, hid', hagain⟩ := hopened.again hid
        exact ⟨outer, fuel', houter, hid', hv.trans hagain⟩
    · exact ⟨around, fuel, hopened, hid, hv⟩
  cases fuel with
  | zero => exact .inl (by rw [unfold, Value.closeMany_scalar]; rfl)
  | succ fuel =>
    right
    have hpath : ¬ (around.map Prod.fst).contains id = true := by
      rwa [List.contains_iff_mem]
    have hunfold := unfold_succ contents knots fuel (around.map Prod.fst) id
    rw [if_neg hpath] at hunfold
    split_ifs at hunfold with hknot
    · -- The container is put back into its own parts.
      have hinner := hopened.cons hid (fuel + 1)
      refine ⟨_, fuel, hinner, ?_⟩
      rw [Value.closeMany_cons, hunfold, Value.closeMany_knot _ hid]
      rfl
    · refine ⟨around, fuel, hopened, ?_⟩
      rw [hunfold]
      exact open_valueOf _ _

/-! ### Steps into a value -/

theorem Stands.scalar {v : Value} {id : Nat} (h : Stands contents knots v id) {s : Scalar}
    (hc : contents[id]?.getD none = some (.scalar s)) : v.open? = .null ∨ v.open? = .scalar s := by
  rcases h.open with hnull | ⟨around, fuel, -, hv⟩
  · exact .inl hnull
  · rw [hc, valueOf, Value.closeMany_scalar] at hv
    exact .inr hv

/-- **What stands for a scalar of a document** has the value of its text, or is null. -/
theorem Stands.typed {g : Graph} (hfilled : g.filled = .ok contents) {v : Value} {id : Nat}
    (h : Stands contents knots v id) {tag : Tag} {text : String}
    (hnode : Build.IsTyped g.nodes id tag text) :
    v.open? = .null ∨ ∃ s, Yaml.typed tag text = .ok (some s) ∧ v.open? = .scalar s := by
  rcases hc : contents[id]?.getD none with _ | c
  · rcases h.open with hnull | ⟨around, fuel, -, hv⟩
    · exact .inl hnull
    · rw [hc, valueOf, Value.closeMany_scalar] at hv
      exact .inl hv
  · obtain ⟨s, rfl, hs⟩ := g.filled_values hfilled hnode hc
    exact (h.scalar hc).imp_right fun hv => ⟨s, hs, hv⟩

/-- **The elements of a list** stand for the elements of its node. -/
theorem Stands.list {v : Value} {id : Nat} (h : Stands contents knots v id) {items : List Nat}
    (hc : contents[id]?.getD none = some (.list items)) {vs : List Value}
    (hv : v.asList? = some vs) : List.Forall₂ (Stands contents knots) vs items := by
  unfold Value.asList? at hv
  rcases h.open with hnull | ⟨around, fuel, hopened, hopen⟩
  · rw [hnull] at hv
    cases hv
  · rw [hopen, hc, valueOf, Value.closeMany_list] at hv
    obtain rfl := Option.some.inj hv
    rw [List.map_map, List.forall₂_map_left_iff, List.forall₂_same]
    exact fun id _ => ⟨around, fuel, hopened, rfl⟩

/-- A mapping comes about from a mapping. -/
theorem of_valueOf_eq_map {part : Nat → Value} {c : Option Content} {es : Entries}
    (h : (valueOf part c).closeMany around = .map es) : ∃ entries, c = some (.map entries) ∧
      es = entries.map fun e => (e.1, (part e.2).closeMany around) := by
  unfold valueOf at h
  split at h
  case h_5 entries =>
    rw [Value.closeMany_map, List.map_map] at h
    exact ⟨entries, rfl, (Value.map.inj h).symm⟩
  all_goals simp at h

/-- **The entries of a mapping** stand for the entries of its node, under the same keys. -/
theorem Stands.map {v : Value} {id : Nat} (h : Stands contents knots v id) {es : Entries}
    (hv : v.asMap? = some es) : ∃ entries, contents[id]?.getD none = some (.map entries) ∧
      List.Forall₂ (fun e n => e.1 = n.1 ∧ Stands contents knots e.2 n.2) es entries := by
  have hmap : v.open? = .map es := by
    unfold Value.asMap? at hv
    split at hv
    · rename_i hopen
      rw [hopen, Option.some.inj hv]
    · cases hv
  rcases h.open with hnull | ⟨around, fuel, hopened, hopen⟩
  · cases hnull.symm.trans hmap
  · obtain ⟨entries, hc, rfl⟩ := of_valueOf_eq_map (hopen.symm.trans hmap)
    refine ⟨entries, hc, ?_⟩
    rw [List.forall₂_map_left_iff, List.forall₂_same]
    exact fun e _ => ⟨rfl, around, fuel, hopened, rfl⟩

/-- The node under a text in the mapping of a node. -/
def under? (contents : Array (Option Content)) (key : String) (id : Nat) : Option Nat :=
  match contents[id]?.getD none with
  | some (.map entries) => (entries.find? fun e => e.1.same (.text key)).map Prod.snd
  | _ => none

/-- The nodes in the list of a node. -/
def elements? (contents : Array (Option Content)) (id : Nat) : Option (List Nat) :=
  match contents[id]?.getD none with
  | some (.list items) => some items
  | _ => none

/-- **Under a text in a mapping** is what stands for the node there. -/
theorem Stands.get? {v : Value} {id : Nat} (h : Stands contents knots v id) {es : Entries}
    (hv : v.asMap? = some es) (key : String) :
    Option.Rel (Stands contents knots) (es.get? key) (under? contents key id) := by
  obtain ⟨entries, hc, hentries⟩ := h.map hv
  unfold under?
  rw [hc]
  clear hc hv
  simp only
  induction hentries with
  | nil => exact .none
  | @cons e n es entries hhead _ ih =>
    obtain ⟨k, u⟩ := e
    obtain ⟨k', j⟩ := n
    obtain ⟨rfl, hu⟩ := hhead
    rw [Entries.get?_cons, List.find?_cons]
    by_cases hk : k = .text key
    · rw [if_pos hk, Scalar.same_text_iff.mpr hk]
      exact .some hu
    · rw [if_neg hk]
      have hsame : k.same (.text key) = false := by
        rw [← Bool.not_eq_true, Scalar.same_text_iff]
        exact hk
      rw [hsame]
      exact ih

theorem Stands.get?_some {v : Value} {id : Nat} (h : Stands contents knots v id) {es : Entries}
    (hv : v.asMap? = some es) {key : String} {u : Value} (hu : es.get? key = some u) :
    ∃ j, under? contents key id = some j ∧ Stands contents knots u j := by
  have hrel := h.get? hv key
  rw [hu] at hrel
  generalize under? contents key id = o at hrel
  cases hrel with
  | some hj => exact ⟨_, rfl, hj⟩

theorem Stands.get?_none {v : Value} {id : Nat} (h : Stands contents knots v id) {es : Entries}
    (hv : v.asMap? = some es) {key : String} (hu : es.get? key = none) :
    under? contents key id = none := by
  have hrel := h.get? hv key
  rw [hu] at hrel
  generalize under? contents key id = o at hrel
  cases hrel with
  | none => rfl

/-- In the place of an element is what stands for the node there. -/
theorem Stands.getElem? {v : Value} {id : Nat} (h : Stands contents knots v id) {vs : List Value}
    (hv : v.asList? = some vs) {items : List Nat} (hitems : elements? contents id = some items)
    {k j : Nat} (hj : items[k]? = some j) {u : Value} (hu : vs[k]? = some u) :
    Stands contents knots u j := by
  have hc : contents[id]?.getD none = some (.list items) := by
    unfold elements? at hitems
    split at hitems
    · rename_i hc
      rw [hc, Option.some.inj hitems]
    · cases hitems
  obtain ⟨hk, rfl⟩ := List.getElem?_eq_some_iff.mp hu
  obtain ⟨hk', rfl⟩ := List.getElem?_eq_some_iff.mp hj
  exact (h.list hc hv).get hk hk'

end Parts

end ItemCatalog.Yaml
