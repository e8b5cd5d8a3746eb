import ItemCatalog.Proofs.Yaml.Faults

/-! # Keys of loaded values

While the nodes of a graph are filled, no mapping is given a key twice, and unfolding the nodes
keeps the keys of their mappings. So a value that a text has is well keyed (`load_wellKeyed`). -/

namespace ItemCatalog.Yaml

/-- Unfolding keeps the keys of mappings, by induction on the depth to which it goes. -/
theorem wellKeyed_unfold {contents : Array (Option Content)}
    (hcontents : ∀ c, some c ∈ contents → Build.Distinct c) (knots : List Nat) (fuel : Nat)
    (path : List Nat) (id : Nat) : (unfold contents knots fuel path id).WellKeyed := by
  induction fuel generalizing path id with
  | zero => trivial
  | succ fuel ih =>
    rw [unfold]
    split_ifs
    · trivial
    · extract_lets isKnot inner part body
      have hbody : body.WellKeyed := by
        rcases hid : contents[id]?.getD none with _ | c
        · simp only [body, hid, Value.WellKeyed]
        · cases c with
          | list items =>
            simp only [body, hid, Value.WellKeyed, Value.allWellKeyed_iff, List.forall_mem_map]
            exact fun id _ => ih inner id
          | pairs items =>
            simp only [body, hid, Value.WellKeyed, Value.allWellKeyed_iff, List.forall_mem_map]
            exact fun e _ => ⟨ih inner e.1, ih inner e.2⟩
          | map entries =>
            have hkeys : DistinctKeys (entries.map Prod.fst) := by
              refine hcontents (.map entries) ?_
              rcases hget : contents[id]? with _ | c
              · rw [hget] at hid
                cases hid
              · rw [hget] at hid
                obtain rfl : c = some (.map entries) := hid
                exact Array.mem_of_getElem? hget
            simp only [body, hid, Value.WellKeyed, Value.entriesWellKeyed_iff, List.forall_mem_map,
              List.map_map]
            exact ⟨hkeys, fun e _ => ih inner e.2⟩
          | _ => simp only [body, hid, Value.WellKeyed]
      split_ifs
      · exact hbody
      · exact hbody

theorem Graph.value_wellKeyed {g : Graph} {v : Value} (h : g.value = .ok v) : v.WellKeyed := by
  refine ((Build.construct_fits g.root).bind fun _ _ => Build.fillAll_fits _ _).result
    (S := Value.WellKeyed) (Build.sound_start g.nodes) (fun _ t _ ht hv => ?_) h
  cases hv
  exact wellKeyed_unfold ht.contents _ _ _ _

/-- **Loaded values are well keyed:** no mapping in the value of a text has a key twice. -/
theorem load_wellKeyed {text : String} {v : Value} (h : load text = .ok v) : v.WellKeyed := by
  rw [load] at h
  rcases hg : Graph.ofText text.toList with e | g
  · rw [hg] at h
    cases h
  · rw [hg] at h
    cases g with
    | none =>
      cases h
      trivial
    | some g => exact g.value_wellKeyed h

end ItemCatalog.Yaml
