import ItemCatalog.Log.Console

/-! # Consoles: which records they take

Records are taken up to the first one that is refused (`take_of_refused`), so all of them exactly if
none is (`take_eq_iff`). Details and plain records are always taken. -/

namespace ItemCatalog.Log.Console

variable {c : Console} {r : Record} {log rest : List Record} {e : Fault}

/-- A console takes records. -/
def Takes (c : Console) (log : List Record) : Prop :=
  ∀ r ∈ log, c.refusal? r = none

theorem Takes.nil : c.Takes [] := fun _ hr => nomatch hr

theorem takes_cons_iff : c.Takes (r :: log) ↔ c.refusal? r = none ∧ c.Takes log :=
  List.forall_mem_cons

theorem takes_append_iff : c.Takes (log ++ rest) ↔ c.Takes log ∧ c.Takes rest :=
  List.forall_mem_append

theorem take_of_takes (h : c.Takes log) : c.take log = (log, none) := by
  induction log with
  | nil => rfl
  | cons r log ih =>
    obtain ⟨hr, hlog⟩ := takes_cons_iff.mp h
    rw [take, hr, ih hlog]

/-- What stands behind records that are taken. -/
theorem take_append (h : c.Takes log) :
    c.take (log ++ rest) = (log ++ (c.take rest).1, (c.take rest).2) := by
  induction log with
  | nil => rfl
  | cons r log ih =>
    obtain ⟨hr, hlog⟩ := takes_cons_iff.mp h
    rw [List.cons_append, take, hr, ih hlog]
    rfl

/-- **The first record that is refused** ends what is said. -/
theorem take_of_refused (h : c.Takes log) (hr : c.refusal? r = some e) :
    c.take (log ++ r :: rest) = (log, some e) := by
  rw [take_append h, take, hr, List.append_nil]

theorem take_prefix (c : Console) (log : List Record) : (c.take log).1 <+: log := by
  induction log with
  | nil => exact List.prefix_refl []
  | cons r log ih =>
    rw [take]
    split
    · exact List.nil_prefix
    · exact (List.prefix_cons_inj r).mpr ih

/-- **All records are said** exactly if none is refused. -/
theorem take_snd_eq_none_iff : (c.take log).2 = none ↔ c.Takes log := by
  refine ⟨fun h => ?_, fun h => congrArg Prod.snd (take_of_takes h)⟩
  induction log with
  | nil => exact .nil
  | cons r log ih =>
    rw [take] at h
    split at h
    · cases h
    · next hr => exact takes_cons_iff.mpr ⟨hr, ih h⟩

/-- The fault of a console is the one of a record that it refuses, and not fatal. -/
theorem exists_refused (h : (c.take log).2 = some e) :
    e.isFatal = false ∧ ∃ r ∈ log, c.refusal? r = some e := by
  induction log with
  | nil => cases h
  | cons r log ih =>
    rw [take] at h
    split at h
    · next e' hr =>
      cases h
      exact ⟨c.refusal?_ordinary r e hr, r, List.mem_cons_self, hr⟩
    · obtain ⟨he, r', hr', hrefused⟩ := ih h
      exact ⟨he, r', List.mem_cons_of_mem r hr', hrefused⟩

theorem said_of_takes (h : c.Takes log) : c.said log = .ok () := by
  rw [said, take_of_takes h]
  rfl

theorem said_eq_ok_iff : c.said log = .ok () ↔ c.Takes log := by
  rw [← take_snd_eq_none_iff, said]
  cases (c.take log).2 <;> simp

theorem said_eq_error_iff : c.said log = .error e ↔ (c.take log).2 = some e := by
  rw [said]
  cases (c.take log).2 <;> simp

/-! ### What is made while something is noted -/

section Noting

variable {α : Type} {noted : α × List Record}

/-- If every note is taken, what was made comes out. -/
theorem noting_of_takes (h : c.Takes noted.2) : c.noting noted = (.ok noted.1, noted.2) := by
  rw [noting, said_of_takes h, take_of_takes h]
  rfl

/-- **The first note that is not taken** comes out in its place, with what was said before. -/
theorem noting_of_refused {before after : List Record} (hnoted : noted.2 = before ++ r :: after)
    (h : c.Takes before) (hr : c.refusal? r = some e) : c.noting noted = (.error e, before) := by
  rw [noting, said, hnoted, take_of_refused h hr]
  rfl

end Noting

/-! ### What every console takes -/

/-- Details are taken. -/
theorem takes_details (h : ∀ r ∈ log, r.level < info) : c.Takes log :=
  fun r hr => c.refusal?_detail r (h r hr)

/-- Plain records are taken. -/
theorem takes_plain (h : ∀ r ∈ log, r.IsPlain) : c.Takes log :=
  fun r hr => c.refusal?_plain r (h r hr)

end ItemCatalog.Log.Console
