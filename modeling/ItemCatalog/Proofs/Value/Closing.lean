import ItemCatalog.Value.Basic
import Mathlib.Data.List.Basic

/-! # Closing: labels that come again outside of their container

A label that comes again in a value without its container around it is free there. Closing a label
is a substitution for its free places: where there are none it changes nothing
(`close_of_not_free`), and afterwards the label is free only where the container put there has it
free (`free_close`). Below the knots of several containers all of them are closed, one after the
other (`closeMany`). -/

namespace ItemCatalog.Value

mutual

/-- A label comes again in a value outside of its container. -/
def Free (label : Nat) : Value → Prop
  | .again l => label = l
  | .knot l body => label ≠ l ∧ Free label body
  | .list items => FreeInAll label items
  | .pair a b => Free label a ∨ Free label b
  | .map entries => FreeInEntries label entries
  | .set _ => False
  | .scalar _ => False

/-- `Free` for the values of a list. -/
def FreeInAll (label : Nat) : List Value → Prop
  | [] => False
  | v :: vs => Free label v ∨ FreeInAll label vs

/-- `Free` for the values of a mapping. -/
def FreeInEntries (label : Nat) : Entries → Prop
  | [] => False
  | (_, v) :: rest => Free label v ∨ FreeInEntries label rest

end

variable {label : Nat} {whole : Value}

theorem freeInAll_iff {vs : List Value} : FreeInAll label vs ↔ ∃ v ∈ vs, Free label v := by
  induction vs with
  | nil => simp [FreeInAll]
  | cons v vs ih => simp [FreeInAll, ih]

theorem freeInEntries_iff {entries : Entries} :
    FreeInEntries label entries ↔ ∃ e ∈ entries, Free label e.2 := by
  induction entries with
  | nil => simp [FreeInEntries]
  | cons e rest ih => simp [FreeInEntries, ih]

theorem closeAll_eq_map (vs : List Value) :
    closeAll label whole vs = vs.map (close label whole) := by
  induction vs with
  | nil => rfl
  | cons v vs ih => rw [closeAll, ih, List.map_cons]

theorem closeEntries_eq_map (entries : Entries) :
    closeEntries label whole entries = entries.map fun e => (e.1, close label whole e.2) := by
  induction entries with
  | nil => rfl
  | cons e rest ih => rw [closeEntries, ih, List.map_cons]

mutual

/-- **A label that is not free** is closed already, by induction on the value. -/
theorem close_of_not_free : ∀ v, ¬ Free label v → close label whole v = v
  | .again l, h => if_neg (Ne.symm h)
  | .knot l body, h => by
    rw [close]
    split_ifs with hl
    · rfl
    · rw [close_of_not_free body fun hbody => h ⟨Ne.symm hl, hbody⟩]
  | .list items, h => by rw [close, closeAll_of_not_free items h]
  | .pair a b, h => by
    rw [close, close_of_not_free a fun ha => h (.inl ha), close_of_not_free b fun hb => h (.inr hb)]
  | .map entries, h => by rw [close, closeEntries_of_not_free entries h]
  | .set _, _ => rfl
  | .scalar _, _ => rfl

theorem closeAll_of_not_free : ∀ vs, ¬ FreeInAll label vs → closeAll label whole vs = vs
  | [], _ => rfl
  | v :: vs, h => by
    rw [closeAll, close_of_not_free v fun hv => h (.inl hv),
      closeAll_of_not_free vs fun hvs => h (.inr hvs)]

theorem closeEntries_of_not_free :
    ∀ entries, ¬ FreeInEntries label entries → closeEntries label whole entries = entries
  | [], _ => rfl
  | (_, v) :: rest, h => by
    rw [closeEntries, close_of_not_free v fun hv => h (.inl hv),
      closeEntries_of_not_free rest fun hrest => h (.inr hrest)]

end

mutual

/-- **What is free in a closed value** was free before and is not the label that was closed, or is
free in the container; by induction on the value. -/
theorem free_close {l : Nat} :
    ∀ v, Free l (close label whole v) → (Free l v ∧ l ≠ label) ∨ Free l whole
  | .again m, h => by
    rw [close] at h
    split_ifs at h with hm
    · exact .inr h
    · obtain rfl : l = m := h
      exact .inl ⟨rfl, hm⟩
  | .knot m body, h => by
    rw [close] at h
    split_ifs at h with hm
    · exact .inl ⟨h, hm ▸ h.1⟩
    · exact (free_close body h.2).imp_left fun hbody => ⟨⟨h.1, hbody.1⟩, hbody.2⟩
  | .list items, h => freeInAll_closeAll items h
  | .pair a b, h => by
    rcases h with h | h
    · exact (free_close a h).imp_left fun ha => ⟨.inl ha.1, ha.2⟩
    · exact (free_close b h).imp_left fun hb => ⟨.inr hb.1, hb.2⟩
  | .map entries, h => freeInEntries_closeEntries entries h
  | .set _, h => h.elim
  | .scalar _, h => h.elim

theorem freeInAll_closeAll {l : Nat} :
    ∀ vs, FreeInAll l (closeAll label whole vs) → (FreeInAll l vs ∧ l ≠ label) ∨ Free l whole
  | [], h => h.elim
  | v :: vs, h => by
    rcases h with h | h
    · exact (free_close v h).imp_left fun hv => ⟨.inl hv.1, hv.2⟩
    · exact (freeInAll_closeAll vs h).imp_left fun hvs => ⟨.inr hvs.1, hvs.2⟩

theorem freeInEntries_closeEntries {l : Nat} :
    ∀ entries, FreeInEntries l (closeEntries label whole entries) →
      (FreeInEntries l entries ∧ l ≠ label) ∨ Free l whole
  | [], h => h.elim
  | (_, v) :: rest, h => by
    rcases h with h | h
    · exact (free_close v h).imp_left fun hv => ⟨.inl hv.1, hv.2⟩
    · exact (freeInEntries_closeEntries rest h).imp_left fun hrest => ⟨.inr hrest.1, hrest.2⟩

end

/-! ### Several containers -/

/-- The value with several containers put back, those at the end of the list first. -/
def closeMany (knots : List (Nat × Value)) (v : Value) : Value :=
  knots.foldr (fun k v => close k.1 k.2 v) v

@[simp] theorem closeMany_cons (k : Nat × Value) (knots : List (Nat × Value)) (v : Value) :
    closeMany (k :: knots) v = close k.1 k.2 (closeMany knots v) := rfl

section
variable (knots : List (Nat × Value))

@[simp] theorem closeMany_scalar (s : Scalar) : closeMany knots (.scalar s) = .scalar s := by
  induction knots with
  | nil => rfl
  | cons k knots ih => rw [closeMany_cons, ih, close]

@[simp] theorem closeMany_set (items : List Scalar) :
    closeMany knots (.set items) = .set items := by
  induction knots with
  | nil => rfl
  | cons k knots ih => rw [closeMany_cons, ih, close]

@[simp] theorem closeMany_list (items : List Value) :
    closeMany knots (.list items) = .list (items.map (closeMany knots)) := by
  induction knots with
  | nil => exact congrArg Value.list (List.map_id items).symm
  | cons k knots ih =>
    rw [closeMany_cons, ih, close, closeAll_eq_map, List.map_map]
    rfl

@[simp] theorem closeMany_map (entries : Entries) :
    closeMany knots (.map entries) = .map (entries.map fun e => (e.1, closeMany knots e.2)) := by
  induction knots with
  | nil => exact congrArg Value.map (List.map_id entries).symm
  | cons k knots ih =>
    rw [closeMany_cons, ih, close, closeEntries_eq_map, List.map_map]
    rfl

theorem closeMany_knot {l : Nat} (h : l ∉ knots.map Prod.fst) (body : Value) :
    closeMany knots (.knot l body) = .knot l (closeMany knots body) := by
  induction knots with
  | nil => rfl
  | cons k knots ih =>
    rw [List.map_cons, List.mem_cons, not_or] at h
    rw [closeMany_cons, ih h.2, close, if_neg h.1]
    rfl

/-- Labels of other containers stay. -/
theorem closeMany_again {l : Nat} (h : l ∉ knots.map Prod.fst) :
    closeMany knots (.again l) = .again l := by
  induction knots with
  | nil => rfl
  | cons k knots ih =>
    rw [List.map_cons, List.mem_cons, not_or] at h
    rw [closeMany_cons, ih h.2, close, if_neg h.1]

end

end ItemCatalog.Value
