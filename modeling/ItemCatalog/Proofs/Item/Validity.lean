import ItemCatalog.Item.Validation
import ItemCatalog.Proofs.Value.Entries

/-! # Validity: which fields describe an item

`Describes` says, field by field and without the checks, when fields describe an item: which values
stand for a text (`Spells`, `SpellsName`, `SpellsOptional`), which key wins where a field has two,
and what stands in for a field that is missing. Validation gives exactly the items that are
described (`validate_eq_ok_iff`). If there is a symbolic name, it looks at nothing but what is under
the keys of an item (`validate_congr`); if there is none, the first violation is about all fields
(`validate_of_not_isNamed`). -/

namespace ItemCatalog

open Number

/-! ### Values that stand for texts -/

/-- A value is a text, or the bytes of one. -/
inductive Spells : Value → String → Prop where
  | text (s : String) : Spells (.text s) s
  | bytes {bs : List UInt8} {s : String} (h : String.fromUTF8? ⟨bs.toArray⟩ = some s) :
    Spells (.scalar (.bytes bs)) s

/-- A value is a text, the bytes of one, or a number that can be written out. -/
inductive SpellsName : Value → String → Prop where
  | spelled {v : Value} {s : String} (h : Spells v s) : SpellsName v s
  | int {n : Int} (h : n.natAbs < Nat.pow 10 maxDigits) : SpellsName (.int n) (renderInt n)
  | float (x : Binary64) : SpellsName (.scalar (.float x)) (renderFloat x)

/-- A value is a text or the bytes of one, or there is nothing: no value, or null. -/
inductive SpellsOptional : Option Value → Option String → Prop where
  | absent : SpellsOptional none none
  | null : SpellsOptional (some .null) none
  | spelled {v : Value} {s : String} (h : Spells v s) : SpellsOptional (some v) (some s)

theorem spells_text_iff {s t : String} : Spells (.text s) t ↔ t = s := by
  constructor
  · intro h
    cases h
    rfl
  · rintro rfl
    exact .text t

theorem spellsName_text_iff {s t : String} : SpellsName (.text s) t ↔ t = s := by
  constructor
  · intro h
    cases h with
    | spelled h => exact spells_text_iff.mp h
  · rintro rfl
    exact .spelled (.text t)

theorem textOf_eq_ok_iff {v : Value} {s : String} : textOf v = .ok s ↔ Spells v s := by
  constructor
  · intro h
    unfold textOf at h
    split at h
    · cases h
      exact .text s
    · split at h
      · cases h
        exact .bytes ‹_›
      · cases h
    · cases h
  · rintro (_ | h)
    · rfl
    · rw [textOf, h]

theorem spellingOf_eq_ok_iff {v : Value} {s : String} : spellingOf v = .ok s ↔ SpellsName v s := by
  constructor
  · intro h
    unfold spellingOf at h
    split at h
    · rename_i n
      split_ifs at h with hlong
      cases h
      refine .int ?_
      simpa [Value.overlongScalar] using hlong
    · cases h
      exact .float _
    · exact .spelled (textOf_eq_ok_iff.mp h)
  · intro h
    cases h with
    | spelled h =>
      cases h with
      | text s => rfl
      | bytes h => exact textOf_eq_ok_iff.mpr (.bytes h)
    | @int n h =>
      have hshort : Value.overlongScalar (.int n) = false := by
        simpa [Value.overlongScalar] using h
      rw [spellingOf, hshort]
      rfl
    | float x => rfl

/-! ### Fields -/

/-- The keys of an item, apart from that of its source. -/
def itemKeys : List String :=
  ["id", "symbolic_name", "version", "name", "display_name", "description", "item_type", "item",
    "plan"]

/-- **Fields describe an item,** apart from its source. Where there are two keys, the first one that
is given wins. The symbolic name is given, and it is not empty; version, kind and plan have
defaults, and the name for readers and the description may be absent. -/
structure Describes (fields : Entries) (i : Item) : Prop where
  symbolicName : ∃ v, (fields.get? "id").or (fields.get? "symbolic_name") = some v ∧
    SpellsName v i.symbolicName ∧ i.symbolicName ≠ ""
  version : match fields.get? "version" with
    | some v => SpellsName v i.version
    | none => i.version = defaultVersion
  displayName :
    SpellsOptional ((fields.get? "name").or (fields.get? "display_name")) i.displayName
  description : SpellsOptional (fields.get? "description") i.description
  itemType : match fields.get? "item_type" with
    | some v => Spells v i.itemType.name
    | none => i.itemType = .entity
  plan : i.plan = ((fields.get? "item").or (fields.get? "plan")).getD .null

/-- Only what is under the keys of an item matters. -/
theorem describes_congr {fields fields' : Entries}
    (h : ∀ key ∈ itemKeys, fields.get? key = fields'.get? key) (i : Item) :
    Describes fields i ↔ Describes fields' i := by
  have hto : ∀ {a b : Entries}, (∀ key ∈ itemKeys, a.get? key = b.get? key) →
      Describes a i → Describes b i := by
    intro a b hab hd
    have hkey : ∀ key, key ∈ itemKeys → b.get? key = a.get? key := fun key hkey =>
      (hab key hkey).symm
    constructor
    · rw [hkey "id" (by decide), hkey "symbolic_name" (by decide)]
      exact hd.symbolicName
    · rw [hkey "version" (by decide)]
      exact hd.version
    · rw [hkey "name" (by decide), hkey "display_name" (by decide)]
      exact hd.displayName
    · rw [hkey "description" (by decide)]
      exact hd.description
    · rw [hkey "item_type" (by decide)]
      exact hd.itemType
    · rw [hkey "item" (by decide), hkey "plan" (by decide)]
      exact hd.plan
  exact ⟨hto h, hto fun key hkey => (h key hkey).symm⟩

/-! ### Checks -/

theorem underKey_eq_ok_iff {α : Type} {key : String} {v : Value} {r : Except Defect α} {a : α} :
    underKey key v r = .ok a ↔ r = .ok a := by
  cases r with
  | error d => exact ⟨nofun, nofun⟩
  | ok b =>
    constructor <;> intro h <;> cases h <;> rfl

section Checks

variable {fields : Entries}

theorem field?_one (fields : Entries) (key : String) :
    (field? fields [key]).map Prod.snd = fields.get? key := by
  simp only [field?]
  cases fields.get? key <;> rfl

theorem field?_two (fields : Entries) (key other : String) :
    (field? fields [key, other]).map Prod.snd = (fields.get? key).or (fields.get? other) := by
  simp only [field?]
  cases fields.get? key <;> cases fields.get? other <;> rfl

theorem checkName_eq_ok_iff {s : String} : checkName fields = .ok s ↔
    ∃ v, (fields.get? "id").or (fields.get? "symbolic_name") = some v ∧
      SpellsName v s ∧ s ≠ "" := by
  rw [← field?_two, checkName]
  rcases field? fields ["id", "symbolic_name"] with _ | ⟨key, v⟩
  · simp
  · simp only [Option.map_some, Option.some.injEq, exists_eq_left', underKey_eq_ok_iff]
    rw [← spellingOf_eq_ok_iff]
    rcases spellingOf v with d | t
    · exact ⟨nofun, fun h => nomatch h.1⟩
    · show (if t.isEmpty then Except.error Defect.tooShort else .ok t) = .ok s ↔ _
      by_cases ht : t = ""
      · subst ht
        refine ⟨nofun, fun h => ?_⟩
        cases h.1
        exact absurd rfl h.2
      · have hempty : t.isEmpty = false := by simpa using ht
        rw [hempty]
        refine ⟨fun h => ?_, fun h => h.1⟩
        cases h
        exact ⟨rfl, ht⟩

theorem checkVersion_eq_ok_iff {s : String} : checkVersion fields = .ok s ↔
    match fields.get? "version" with
    | some v => SpellsName v s
    | none => s = defaultVersion := by
  rw [← field?_one, checkVersion]
  rcases field? fields ["version"] with _ | ⟨key, v⟩
  · exact ⟨fun h => (Except.ok.inj h).symm, fun h => congrArg Except.ok h.symm⟩
  · exact underKey_eq_ok_iff.trans spellingOf_eq_ok_iff

/-- A value that is not null is an optional text if it is a text. -/
theorem spellsOptional_some {v : Value} (hv : v ≠ .null) {o : Option String} :
    SpellsOptional (some v) o ↔ ∃ s, Spells v s ∧ o = some s := by
  constructor
  · intro h
    cases h with
    | null => exact absurd rfl hv
    | @spelled _ s h => exact ⟨s, h, rfl⟩
  · rintro ⟨s, h, rfl⟩
    exact .spelled h

theorem checkText_eq_ok_iff {keys : List String} {o : Option String} :
    checkText fields keys = .ok o ↔ SpellsOptional ((field? fields keys).map Prod.snd) o := by
  rw [checkText]
  split
  · rename_i hfield
    rw [hfield]
    refine ⟨fun h => Except.ok.inj h ▸ .absent, fun h => ?_⟩
    cases h
    rfl
  · rename_i hfield
    rw [hfield]
    refine ⟨fun h => Except.ok.inj h ▸ .null, fun h => ?_⟩
    cases h with
    | null => rfl
    | spelled h => cases h
  · rename_i key v hnull hfield
    rw [hfield, Option.map_some, spellsOptional_some hnull, underKey_eq_ok_iff]
    simp only [← textOf_eq_ok_iff]
    rcases textOf v with d | t
    · exact ⟨nofun, fun ⟨_, h, _⟩ => nomatch h⟩
    · constructor
      · intro h
        cases h
        exact ⟨t, rfl, rfl⟩
      · rintro ⟨s, h, rfl⟩
        cases h
        rfl

theorem ofName?_eq_some_iff {s : String} {kind : ItemType} :
    ItemType.ofName? s = some kind ↔ s = kind.name := by
  constructor
  · intro h
    have hname := List.find?_some h
    exact (beq_iff_eq.mp hname).symm
  · rintro rfl
    cases kind <;> rfl

theorem checkType_eq_ok_iff {kind : ItemType} : checkType fields = .ok kind ↔
    match fields.get? "item_type" with
    | some v => Spells v kind.name
    | none => kind = .entity := by
  rw [← field?_one, checkType]
  rcases field? fields ["item_type"] with _ | ⟨key, v⟩
  · exact ⟨fun h => (Except.ok.inj h).symm, fun h => congrArg Except.ok h.symm⟩
  · simp only [Option.map_some, ← textOf_eq_ok_iff]
    rcases textOf v with d | t
    · exact ⟨nofun, nofun⟩
    · show underKey key v ((ItemType.ofName? t).elim (.error .notType) .ok) = .ok kind ↔ _
      rw [underKey_eq_ok_iff, Except.ok.injEq, ← ofName?_eq_some_iff]
      cases ItemType.ofName? t with
      | none => exact ⟨nofun, nofun⟩
      | some k => exact ⟨fun h => congrArg some (Except.ok.inj h),
          fun h => congrArg Except.ok (Option.some.inj h)⟩

end Checks

/-! ### Items -/

/-- An item comes from validation if each of its fields comes from its check. -/
theorem validate_eq_ok_iff_checks {fields : Entries} {i : Item} : Item.validate fields = .ok i ↔
    (checkName fields = .ok i.symbolicName ∧ checkVersion fields = .ok i.version ∧
      checkText fields ["name", "display_name"] = .ok i.displayName ∧
      checkText fields ["description"] = .ok i.description ∧
      checkType fields = .ok i.itemType ∧ i.plan = planOf fields) ∧
    checkText fields ["source"] = .ok i.source := by
  constructor
  · intro h
    unfold Item.validate at h
    dsimp only at h
    split at h
    · cases h
      exact ⟨⟨‹_›, ‹_›, ‹_›, ‹_›, ‹_›, rfl⟩, ‹_›⟩
    · cases h
  · rintro ⟨⟨hname, hversion, hdisplay, hdescription, htype, hplan⟩, hsource⟩
    rw [Item.validate, hname, hversion, hdisplay, hdescription, htype, hsource, ← hplan]

/-- **Validation** gives exactly the items that fields describe. -/
theorem validate_eq_ok_iff {fields : Entries} {i : Item} : Item.validate fields = .ok i ↔
    Describes fields i ∧ SpellsOptional (fields.get? "source") i.source := by
  rw [validate_eq_ok_iff_checks, checkName_eq_ok_iff, checkVersion_eq_ok_iff, checkText_eq_ok_iff,
    checkText_eq_ok_iff, checkText_eq_ok_iff, checkType_eq_ok_iff, field?_one, field?_one,
    field?_two, planOf, field?_two]
  exact and_congr_left' ⟨fun ⟨hn, hv, hd, ht, hk, hp⟩ => ⟨hn, hv, hd, ht, hk, hp⟩,
    fun h => ⟨h.1, h.2, h.3, h.4, h.5, h.6⟩⟩

/-! ### What validation looks at -/

/-- The symbolic name is given. -/
def IsNamed (fields : Entries) : Prop :=
  (fields.get? "id").or (fields.get? "symbolic_name") ≠ none

/-- What is wrong with fields apart from their symbolic name. -/
def otherViolations (fields : Entries) : List Violation :=
  violationOf (checkVersion fields) ++ violationOf (checkText fields ["name", "display_name"]) ++
    violationOf (checkText fields ["description"]) ++ violationOf (checkType fields) ++
    violationOf (checkText fields ["source"])

/-- Where the symbolic name is missing, this is the first violation, and it is about all fields. -/
theorem validate_of_not_isNamed {fields : Entries} (h : ¬ IsNamed fields) :
    Item.validate fields =
      .error (⟨"id", .missing, .map fields⟩ :: otherViolations fields) := by
  have hfield : field? fields ["id", "symbolic_name"] = none := by
    rw [IsNamed, not_not, ← field?_two, Option.map_eq_none_iff] at h
    exact h
  have hname : checkName fields = .error ⟨"id", .missing, .map fields⟩ := by
    rw [checkName, hfield]
  simp only [Item.validate, hname, violationOf, List.cons_append, List.nil_append,
    otherViolations, List.append_assoc]

section Congruence

variable {fields fields' : Entries}
  (h : ∀ key ∈ "source" :: itemKeys, fields.get? key = fields'.get? key)

include h

theorem isNamed_congr : IsNamed fields ↔ IsNamed fields' := by
  rw [IsNamed, IsNamed, h "id" (by decide), h "symbolic_name" (by decide)]

theorem otherViolations_congr : otherViolations fields = otherViolations fields' := by
  simp only [itemKeys, List.forall_mem_cons] at h
  obtain ⟨hsource, -, -, hversion, hname, hdisplay, hdescription, htype, -⟩ := h
  simp only [otherViolations, checkVersion, checkText, checkType, field?, hsource, hversion, hname,
    hdisplay, hdescription, htype]

/-- **Validation looks at the keys of an item** and at the key of its source only, if there is a
symbolic name. -/
theorem validate_congr (hnamed : IsNamed fields) :
    Item.validate fields = Item.validate fields' := by
  have hcheck : checkName fields = checkName fields' := by
    have hid := h "id" (by decide)
    have hsymbolic := h "symbolic_name" (by decide)
    rw [IsNamed] at hnamed
    simp only [checkName, field?, ← hid, ← hsymbolic]
    cases hfirst : fields.get? "id" with
    | some v => rfl
    | none =>
      cases hsecond : fields.get? "symbolic_name" with
      | some v => rfl
      | none =>
        rw [hfirst, hsecond] at hnamed
        exact absurd rfl hnamed
  simp only [itemKeys, List.forall_mem_cons] at h
  obtain ⟨hsource, -, -, hversion, hname, hdisplay, hdescription, htype, hitem, hplan, -⟩ := h
  simp only [Item.validate, hcheck, checkVersion, checkText, checkType, planOf, field?, hsource,
    hversion, hname, hdisplay, hdescription, htype, hitem, hplan]

end Congruence

end ItemCatalog
