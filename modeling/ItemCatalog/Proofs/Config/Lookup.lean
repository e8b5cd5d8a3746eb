import ItemCatalog.Config.Basic
import ItemCatalog.Proofs.Files.Path
import ItemCatalog.Proofs.Log.Console
import ItemCatalog.Proofs.Value.Entries

/-! # Lookup: settings before and after their placeholders are filled

A dotted path names keys, and the keys lead from a mapping to a value, one mapping at a time
(`Reaches`). Filling the placeholders of a value changes its texts and nothing else: lists keep
their length, mappings their keys and the order of them, and values without texts stay (`Filled`).
So it makes no difference whether a value is filled before or after it is looked up:

* `follow_expand`: filling commutes with following keys, by induction on the keys;
* `get_ofEntries`: a setting of a configuration is the filled value at its path. -/

namespace ItemCatalog.Config

open Value

/-! ### Paths -/

/-- The keys that a dotted path names. -/
structure Names (path : String) (keys : List String) : Prop where
  some : keys ≠ []
  undotted : ∀ key ∈ keys, '.' ∉ key.toList
  joined : path = ".".intercalate keys

theorem toList_intercalate (keys : List String) :
    (".".intercalate keys).toList = ['.'].intercalate (keys.map String.toList) := by
  rw [String.toList_intercalate]
  rfl

/-- A path names the parts between its dots, and no other keys. -/
theorem names_iff {path : String} {keys : List String} :
    Names path keys ↔ keys = Text.cut '.' path := by
  constructor
  · intro h
    exact (Text.cut_of_intercalate h.some h.undotted (by rw [h.joined, toList_intercalate])).symm
  · rintro rfl
    refine ⟨?_, fun key => Text.not_mem_of_mem_cut, ?_⟩
    · simp [Text.cut]
    · apply String.toList_injective
      rw [toList_intercalate, Text.cut, List.map_map]
      simp [Function.comp_def, List.intercalate_splitOn]

/-- Keys lead from a value to a value, one mapping at a time. -/
inductive Reaches : List String → Value → Value → Prop
  | here (v : Value) : Reaches [] v v
  | under {key : String} {keys : List String} {entries : Entries} {v w : Value}
      (hkey : entries.get? key = some v) (hrest : Reaches keys v w) :
      Reaches (key :: keys) (.map entries) w

/-! ### Filled values -/

/-- A value whose placeholders are looked for: a text, a list or a mapping. -/
def HasTexts : Value → Prop
  | .text _ => True
  | .list _ => True
  | .map _ => True
  | _ => False

/-- A value and the same value with the placeholders of its texts filled. -/
inductive Filled (env : Environment) : Value → Value → Prop
  | text (s : String) : Filled env (.text s) (.text (expandText env s).1)
  | list {vs ws : List Value} (h : List.Forall₂ (Filled env) vs ws) :
      Filled env (.list vs) (.list ws)
  | map {es fs : Entries} (hkeys : fs.map Prod.fst = es.map Prod.fst)
      (h : List.Forall₂ (Filled env) (es.map Prod.snd) (fs.map Prod.snd)) :
      Filled env (.map es) (.map fs)
  | other {v : Value} (h : ¬ HasTexts v) : Filled env v v

theorem expandEntries_keys (env : Environment) (es : Entries) :
    (expandEntries env es).1.map Prod.fst = es.map Prod.fst := by
  induction es with
  | nil => rfl
  | cons e es ih => exact congrArg (e.1 :: ·) ih

mutual

theorem expand_filled (env : Environment) : ∀ v, Filled env v (expand env v).1
  | .scalar s => by
    cases s with
    | text s => exact .text s
    | _ => exact .other id
  | .list items => .list (expandAll_filled env items)
  | .map entries => .map (expandEntries_keys env entries) (expandEntries_filled env entries)
  | .pair _ _ => .other id
  | .set _ => .other id
  | .knot _ _ => .other id
  | .again _ => .other id

theorem expandAll_filled (env : Environment) :
    ∀ vs, List.Forall₂ (Filled env) vs (expandAll env vs).1
  | [] => .nil
  | v :: vs => .cons (expand_filled env v) (expandAll_filled env vs)

theorem expandEntries_filled (env : Environment) : ∀ es : Entries,
    List.Forall₂ (Filled env) (es.map Prod.snd) ((expandEntries env es).1.map Prod.snd)
  | [] => .nil
  | (_, v) :: es => .cons (expand_filled env v) (expandEntries_filled env es)

end

/-! ### Following keys -/

section Following

variable {env : Environment}

theorem get?_expandEntries (entries : Entries) (key : String) :
    (expandEntries env entries).1.get? key =
      (entries.get? key).map fun v => (expand env v).1 := by
  induction entries with
  | nil => rfl
  | cons e rest ih =>
    obtain ⟨k, v⟩ := e
    have hfirst : (expandEntries env ((k, v) :: rest)).1 =
        (k, (expand env v).1) :: (expandEntries env rest).1 := rfl
    rw [hfirst, Entries.get?_cons, Entries.get?_cons, ih]
    split_ifs <;> rfl

theorem hasKnot_of_get? {entries : Entries} (h : entriesKnot entries = false) {key : String}
    {v : Value} (hv : entries.get? key = some v) : v.hasKnot = false := by
  induction entries with
  | nil => cases hv
  | cons e rest ih =>
    obtain ⟨k, w⟩ := e
    obtain ⟨hw, hrest⟩ := Bool.or_eq_false_iff.mp h
    rw [Entries.get?_cons] at hv
    split_ifs at hv
    · exact Option.some.inj hv ▸ hw
    · exact ih hrest hv

theorem follow_cons (key : String) (keys : List String) (v : Value) :
    follow (key :: keys) v = (v.asMap?.bind (·.get? key)).bind (follow keys) := by
  cases hmap : v.asMap? with
  | none =>
    simp only [follow, hmap]
    rfl
  | some entries =>
    simp only [follow, hmap, Option.bind_some]
    cases entries.get? key <;> rfl

theorem follow_map (key : String) (keys : List String) (entries : Entries) :
    follow (key :: keys) (.map entries) = (entries.get? key).bind (follow keys) :=
  follow_cons key keys (.map entries)

/-- Where there is no mapping, no key leads on, and filling makes no mapping. -/
theorem follow_of_not_map (env : Environment) {v : Value} (hfinite : v.hasKnot = false)
    (hmap : ∀ entries, v ≠ .map entries) (key : String) (keys : List String) :
    follow (key :: keys) v = none ∧ follow (key :: keys) (expand env v).1 = none := by
  cases v with
  | scalar s => cases s <;> exact ⟨rfl, rfl⟩
  | map entries => exact absurd rfl (hmap entries)
  | knot label body => cases hfinite
  | again label => cases hfinite
  | _ => exact ⟨rfl, rfl⟩

/-- **Filling commutes with following keys,** by induction on the keys. -/
theorem follow_expand (keys : List String) {v : Value} (hfinite : v.hasKnot = false) :
    follow keys (expand env v).1 = (follow keys v).map fun w => (expand env w).1 := by
  induction keys generalizing v with
  | nil => rfl
  | cons key keys ih =>
    by_cases hmap : ∃ entries, v = .map entries
    · obtain ⟨entries, rfl⟩ := hmap
      have hexpand : (expand env (.map entries)).1 = .map (expandEntries env entries).1 := rfl
      rw [hexpand, follow_map, follow_map, get?_expandEntries]
      cases hv : Entries.get? entries key with
      | none => rfl
      | some w => exact ih (hasKnot_of_get? hfinite hv)
    · obtain ⟨hnone, hnone'⟩ := follow_of_not_map env hfinite
        (fun entries h => hmap ⟨entries, h⟩) key keys
      rw [hnone, hnone']
      rfl

theorem follow_eq_some_iff {keys : List String} {v w : Value} (hfinite : v.hasKnot = false) :
    follow keys v = some w ↔ Reaches keys v w := by
  induction keys generalizing v with
  | nil =>
    refine ⟨fun h => Option.some.inj h ▸ .here v, fun h => ?_⟩
    cases h
    rfl
  | cons key keys ih =>
    constructor
    · intro h
      by_cases hmap : ∃ entries, v = .map entries
      · obtain ⟨entries, rfl⟩ := hmap
        rw [follow_map] at h
        obtain ⟨u, hkey, hrest⟩ := Option.bind_eq_some_iff.mp h
        exact .under hkey ((ih (hasKnot_of_get? hfinite hkey)).mp hrest)
      · rw [(follow_of_not_map [] hfinite (fun e he => hmap ⟨e, he⟩) key keys).1] at h
        cases h
    · intro h
      cases h with
      | under hkey hrest =>
        rw [follow_map, hkey]
        exact (ih (hasKnot_of_get? hfinite hkey)).mpr hrest

end Following

/-- **A setting** of a configuration that was made from finite settings is the value that the keys
of its path lead to, filled, or the default if they lead to none; a null that is there is no missing
value. The settings differ from those that were written in their texts only, and what was written is
kept. The configuration can be had on a console that takes the notes about placeholders that stay;
the first one that a console does not take ends the making with its fault. -/
theorem get_ofEntries (env : Environment) (file : Option Files.Path) {written : Entries}
    (hfinite : entriesKnot written = false) (path : String) (default : Value) :
    let c := (ofEntries env file written).1
    let notes := (expand env (.map written)).2
    let keys := Text.cut '.' path
    Names path keys ∧
    (∀ v, Reaches keys (.map written) v → c.get path default = (expand env v).1) ∧
    ((∀ v, ¬ Reaches keys (.map written) v) → c.get path default = default) ∧
    (Reaches keys (.map written) .null → c.get path default = .null) ∧
    Filled env (.map written) (.map c.settings) ∧ c.written = written ∧
    ∀ console : Log.Console,
      (console.Takes notes → console.noting (ofEntries env file written) = (.ok c, notes)) ∧
      ∀ before note after e, notes = before ++ note :: after → console.Takes before →
        console.refusal? note = some e →
          console.noting (ofEntries env file written) = (.error e, before) := by
  intro c notes keys
  have hget : c.get path default =
      ((follow keys (.map written)).map fun v => (expand env v).1).getD default :=
    congrArg (Option.getD · default) (follow_expand (v := .map written) keys hfinite)
  have hreached : ∀ v, Reaches keys (.map written) v →
      c.get path default = (expand env v).1 := fun v hv => by
    rw [hget, (follow_eq_some_iff (v := .map written) hfinite).mpr hv]
    rfl
  refine ⟨names_iff.mpr rfl, hreached, fun hnone => ?_, hreached .null,
    expand_filled env (.map written), rfl, fun console => ⟨fun htakes => ?_,
    fun before note after e hnotes hbefore hr => ?_⟩⟩
  · cases hv : follow keys (.map written) with
    | none =>
      rw [hget, hv]
      rfl
    | some v => exact absurd ((follow_eq_some_iff (v := .map written) hfinite).mp hv) (hnone v)
  · exact Log.Console.noting_of_takes htakes
  · exact Log.Console.noting_of_refused hnotes hbefore hr

/-- Settings with a text to fill in a list, and a null. -/
def nestedSettings : Entries :=
  [(.text "catalog", .map [(.text "url", .list [.text "$A/x"]), (.text "load_mode", .null)])]

/-- The list is found filled, and the null is found where a default is given. -/
theorem get_ofEntries_nested :
    let c := (ofEntries [("A", "b")] none nestedSettings).1
    entriesKnot nestedSettings = false ∧
      c.get "catalog.url" (.text "$A") = .list [.text "b/x"] ∧
      c.get "catalog.load_mode" (.text "$A") = .null := by
  intro c
  have hfinite : entriesKnot nestedSettings = false := by decide
  obtain ⟨-, hurl, -⟩ := get_ofEntries [("A", "b")] none hfinite "catalog.url" (.text "$A")
  obtain ⟨-, -, -, hmode, -⟩ :=
    get_ofEntries [("A", "b")] none hfinite "catalog.load_mode" (.text "$A")
  have hkeys : Text.cut '.' "catalog.url" = ["catalog", "url"] := by decide +kernel
  have hkeys' : Text.cut '.' "catalog.load_mode" = ["catalog", "load_mode"] := by decide +kernel
  have hfilled : (expand [("A", "b")] (.list [.text "$A/x"])).1 = .list [.text "b/x"] := by
    decide +kernel
  rw [hkeys] at hurl
  rw [hkeys'] at hmode
  rw [← hfilled]
  exact ⟨hfinite, hurl _ (.under rfl (.under rfl (.here _))),
    hmode (.under rfl (.under rfl (.here _)))⟩

end ItemCatalog.Config
