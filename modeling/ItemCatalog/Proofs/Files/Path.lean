import ItemCatalog.Files.Tree
import Mathlib.Data.List.Basic
import Mathlib.Tactic.MkIffOfInductiveProp
import Mathlib.Tactic.SplitIfs

/-! # Paths: from names to texts and back

The names of files and directories hold no slash, and are none of the texts that mean something else
in a path (`IsName`). The text of a location of such names is read as its path (`ofText_render`),
and every name of a path that was read is one of them or leads upwards. Reading a text and taking
back every `..` makes no location larger than the text was (`width_resolve_le`): a shorter text
never leads to the same location. A path cannot be expanded exactly if it starts with the name of
someone without a home (`expandHome_eq_none_iff`). What is found at a path stands at the location it
leads to (`entry_of_find`). -/

namespace ItemCatalog

namespace Text

/-! ### Parts of texts -/

theorem not_mem_of_mem_splitOn {sep : Char} {cs part : List Char} (h : part ∈ cs.splitOn sep) :
    sep ∉ part := by
  induction cs generalizing part with
  | nil =>
    rw [List.splitOn_nil, List.mem_singleton] at h
    rw [h]
    exact List.not_mem_nil
  | cons c cs ih =>
    rw [List.splitOn_cons_eq_if_modifyHead] at h
    obtain ⟨first, rest, hparts⟩ := List.exists_cons_of_ne_nil (List.splitOn_ne_nil sep cs)
    rw [hparts] at h ih
    split_ifs at h with hc
    · rcases List.mem_cons.mp h with rfl | h
      · exact List.not_mem_nil
      · exact ih h
    · rcases List.mem_cons.mp h with rfl | h
      · rw [List.mem_cons, not_or]
        exact ⟨fun heq => hc (beq_iff_eq.mpr heq.symm), ih List.mem_cons_self⟩
      · exact ih (List.mem_cons_of_mem first h)

/-- How long texts are, with a separator for each of them. -/
def width : List String → Nat
  | [] => 0
  | part :: parts => part.toList.length + 1 + width parts

@[simp] theorem width_nil : width [] = 0 := rfl

@[simp] theorem width_cons (part : String) (parts : List String) :
    width (part :: parts) = part.toList.length + 1 + width parts := rfl

@[simp] theorem width_append (parts more : List String) :
    width (parts ++ more) = width parts + width more := by
  induction parts with
  | nil => exact (Nat.zero_add _).symm
  | cons part parts ih => rw [List.cons_append, width_cons, width_cons, ih, Nat.add_assoc (_ + 1)]

theorem width_le_of_sublist {parts more : List String} (h : parts.Sublist more) :
    width parts ≤ width more := by
  induction h with
  | slnil => exact Nat.le_refl 0
  | cons part _ ih => exact Nat.le_trans ih (Nat.le_add_left _ _)
  | cons_cons part _ ih => exact Nat.add_le_add_left ih _

theorem width_splitOn (sep : Char) (cs : List Char) :
    width ((cs.splitOn sep).map String.ofList) = cs.length + 1 := by
  induction cs with
  | nil => rfl
  | cons c cs ih =>
    rw [List.splitOn_cons_eq_if_modifyHead]
    obtain ⟨first, rest, hparts⟩ := List.exists_cons_of_ne_nil (List.splitOn_ne_nil sep cs)
    rw [hparts] at ih ⊢
    simp only [List.map_cons, width_cons, String.toList_ofList] at ih
    split_ifs <;>
      simp only [List.modifyHead_cons, List.map_cons, width_cons, String.toList_ofList,
        List.length_cons, List.length_nil] <;>
      omega

/-- No part holds the separator. -/
theorem not_mem_of_mem_cut {sep : Char} {s part : String} (h : part ∈ cut sep s) :
    sep ∉ part.toList := by
  obtain ⟨cs, hcs, rfl⟩ := List.mem_map.mp h
  rw [String.toList_ofList]
  exact not_mem_of_mem_splitOn hcs

/-- **The parts** of a text, with a separator for each, are one longer than the text. -/
theorem width_cut (sep : Char) (s : String) : width (cut sep s) = s.toList.length + 1 :=
  width_splitOn sep s.toList

/-- The parts of texts with separators between them are these texts. -/
theorem cut_of_intercalate {sep : Char} {s : String} {parts : List String} (hne : parts ≠ [])
    (hparts : ∀ part ∈ parts, sep ∉ part.toList)
    (hs : s.toList = [sep].intercalate (parts.map String.toList)) : cut sep s = parts := by
  rw [cut, hs, List.splitOn_intercalate sep _ (by simpa using hne), List.map_map]
  · exact (List.map_congr_left fun part _ => String.ofList_toList).trans (List.map_id parts)
  · intro cs hcs
    obtain ⟨part, hpart, rfl⟩ := List.mem_map.mp hcs
    exact hparts part hpart

end Text

namespace Files

open Text

/-! ### Names -/

/-- A text that a file or directory can have for its name. -/
@[mk_iff]
structure IsName (n : String) : Prop where
  ne_empty : n ≠ ""
  ne_here : n ≠ "."
  ne_above : n ≠ ".."
  no_slash : '/' ∉ n.toList

instance (n : String) : Decidable (IsName n) :=
  decidable_of_iff _ (isName_iff n).symm

namespace Path

/-- Every name of a path that was read is a name, or leads upwards. -/
theorem isName_of_mem_ofText {s n : String} (h : n ∈ (ofText s).names) : n = ".." ∨ IsName n := by
  obtain ⟨hcut, hne⟩ := List.mem_filter.mp h
  simp only [Bool.and_eq_true, decide_eq_true_eq] at hne
  by_cases habove : n = ".."
  · exact Or.inl habove
  · exact Or.inr ⟨hne.1, hne.2, habove, not_mem_of_mem_cut hcut⟩

/-! ### From a location to its text and back -/

theorem toList_slash : "/".toList = ['/'] := by
  decide

theorem render_ofLocation (l : Location) :
    (ofLocation l).render.toList = '/' :: ['/'].intercalate (l.map String.toList) := by
  rw [render, if_neg (by simp [ofLocation]), String.toList_append, String.toList_intercalate,
    ofLocation, toList_slash, List.singleton_append]

theorem rootOf_slash {c : Char} (hc : c ≠ '/') (cs : List Char) :
    rootOf ('/' :: c :: cs) = "/" := by
  rw [rootOf, List.takeWhile_cons_of_pos (by rfl), List.takeWhile_cons_of_neg (by simpa using hc)]
  rfl

/-- A text that starts with a slash has a root. -/
theorem rootOf_ne_empty (cs : List Char) : rootOf ('/' :: cs) ≠ "" := by
  rw [rootOf, List.takeWhile_cons_of_pos (by rfl)]
  split <;> simp_all

theorem rootOf_render {l : Location} (hl : ∀ n ∈ l, IsName n) :
    rootOf (ofLocation l).render.toList = "/" := by
  rw [render_ofLocation]
  cases l with
  | nil => rfl
  | cons n l =>
    have hn : IsName n := hl n List.mem_cons_self
    obtain ⟨c, cs, hcs⟩ := List.exists_cons_of_ne_nil
      (show n.toList ≠ [] by rw [Ne, String.toList_eq_nil_iff]; exact hn.ne_empty)
    have hc : c ≠ '/' := fun heq => hn.no_slash (hcs ▸ heq ▸ List.mem_cons_self)
    cases l with
    | nil => rw [List.map_singleton, List.intercalate_singleton, hcs, rootOf_slash hc]
    | cons m l =>
      rw [List.map_cons, List.map_cons, List.intercalate_cons_cons, hcs, List.cons_append,
        List.cons_append, rootOf_slash hc]

/-- The parts of the text of a location: an empty one in front of its names. -/
theorem cut_render {l : Location} (hne : l ≠ []) (hl : ∀ n ∈ l, IsName n) :
    cut '/' (ofLocation l).render = "" :: l := by
  refine cut_of_intercalate (by nofun) ?_ ?_
  · intro part hpart
    rcases List.mem_cons.mp hpart with rfl | hpart
    · decide
    · exact (hl part hpart).no_slash
  · rw [render_ofLocation, List.map_cons, List.intercalate_cons_of_ne_nil (by simpa using hne)]
    rfl

theorem length_render {l : Location} (hne : l ≠ []) (hl : ∀ n ∈ l, IsName n) :
    (ofLocation l).render.toList.length = width l := by
  have hwidth := width_cut '/' (ofLocation l).render
  rw [cut_render hne hl, width_cons] at hwidth
  have hempty : "".toList.length = 0 := rfl
  omega

/-- **The text of a location** is read as its path. -/
theorem ofText_render {l : Location} (hl : ∀ n ∈ l, IsName n) :
    ofText (ofLocation l).render = ofLocation l := by
  rw [ofText, rootOf_render hl, ofLocation]
  congr 1
  by_cases hne : l = []
  · subst hne
    decide
  · rw [← ofLocation, cut_render hne hl, List.filter_cons_of_neg (by simp),
      List.filter_eq_self.mpr fun n hn => ?_]
    simp [(hl n hn).ne_empty, (hl n hn).ne_here]

/-! ### Where a path leads -/

theorem resolveNames_cons (start : Location) (n : String) (names : List String) :
    resolveNames start (n :: names) =
      resolveNames (if n = ".." then start.dropLast else start ++ [n]) names := rfl

/-- The names of a location that was looked for come from where the search began and from the
path. -/
theorem isName_of_mem_resolveNames {start : Location} {names : List String}
    (hstart : ∀ n ∈ start, IsName n) (hnames : ∀ n ∈ names, n = ".." ∨ IsName n) :
    ∀ n ∈ resolveNames start names, IsName n := by
  induction names generalizing start with
  | nil => exact hstart
  | cons first names ih =>
    rw [resolveNames_cons]
    refine ih ?_ fun n hn => hnames n (List.mem_cons_of_mem first hn)
    intro n hn
    split_ifs at hn with habove
    · exact hstart n (List.dropLast_subset start hn)
    · rcases List.mem_append.mp hn with hn | hn
      · exact hstart n hn
      · rw [List.mem_singleton.mp hn]
        exact (hnames first List.mem_cons_self).resolve_left habove

/-- Names that lead nowhere upwards are appended. -/
theorem resolveNames_of_isName {start : Location} {names : List String}
    (hnames : ∀ n ∈ names, IsName n) : resolveNames start names = start ++ names := by
  induction names generalizing start with
  | nil => exact (List.append_nil start).symm
  | cons first names ih =>
    rw [resolveNames_cons, if_neg (hnames first List.mem_cons_self).ne_above,
      ih fun n hn => hnames n (List.mem_cons_of_mem first hn), List.append_assoc,
      List.singleton_append]

/-- A location leads to itself. -/
theorem resolve_ofLocation {l : Location} (hl : ∀ n ∈ l, IsName n) (cwd : Location) :
    (ofLocation l).resolve cwd = l := by
  rw [resolve, ofLocation, if_neg (show "/" ≠ "" by decide), resolveNames_of_isName hl,
    List.nil_append]

/-- Taking back every `..` makes nothing larger. -/
theorem width_resolveNames_le (start : Location) (names : List String) :
    width (resolveNames start names) ≤ width start + width names := by
  induction names generalizing start with
  | nil => exact Nat.le_refl _
  | cons first names ih =>
    have hrest := ih (if first = ".." then start.dropLast else start ++ [first])
    have hdrop := width_le_of_sublist (List.dropLast_sublist start)
    rw [resolveNames_cons, width_cons]
    refine Nat.le_trans hrest ?_
    split_ifs
    · omega
    · rw [width_append, width_cons, width_nil]
      omega

theorem root_ofText {s : String} {rest : List Char} (hs : s.toList = '/' :: rest) :
    (ofText s).root ≠ "" := by
  rw [ofText, hs]
  exact rootOf_ne_empty rest

/-- **A text that starts with a slash** leads to no location that is larger than itself. -/
theorem width_resolve_le (cwd : Location) {s : String} {rest : List Char}
    (hs : s.toList = '/' :: rest) : width ((ofText s).resolve cwd) ≤ s.toList.length := by
  have hcut : cut '/' s = "" :: (rest.splitOn '/').map String.ofList := by
    rw [cut, hs, List.splitOn_cons_eq_if_modifyHead, if_pos (by rfl)]
    rfl
  have hnames : width (ofText s).names ≤ width ((rest.splitOn '/').map String.ofList) := by
    refine width_le_of_sublist ?_
    rw [ofText, hcut, List.filter_cons_of_neg (by simp)]
    exact List.filter_sublist
  -- The empty part in front of the first slash makes up for the separator that there is too much.
  have hsum : 1 + width ((rest.splitOn '/').map String.ofList) = s.toList.length + 1 := by
    rw [← width_cut '/' s, hcut]
    rfl
  have hresolve := width_resolveNames_le [] (ofText s).names
  rw [resolve, if_neg (root_ofText hs)]
  rw [width_nil] at hresolve
  omega

/-! ### Home directories -/

/-- A path with a root has no tilde to expand. -/
theorem expandHome_of_root {p : Path} (h : p.root ≠ "") (homes : String → Option String) :
    p.expandHome? homes = some p := by
  unfold expandHome?
  split
  · next hroot _ => exact absurd hroot h
  · rfl

/-- The first name of a path stands for the home directory of someone who has none that is known. -/
def Homeless (homes : String → Option String) (p : Path) : Prop :=
  p.root = "" ∧ ∃ first rest, p.names = first :: rest ∧ first.startsWith "~" = true ∧
    ∀ h, homeOf? homes first = some h → (dropSlashes h).startsWith "~" = true

theorem homeless_cons_iff {homes : String → Option String} {first : String} {rest : List String} :
    (⟨"", first :: rest⟩ : Path).Homeless homes ↔ first.startsWith "~" = true ∧
      ∀ h, homeOf? homes first = some h → (dropSlashes h).startsWith "~" = true := by
  constructor
  · rintro ⟨-, _, _, ⟨⟩, hhomeless⟩
    exact hhomeless
  · exact fun hhomeless => ⟨rfl, first, rest, rfl, hhomeless⟩

/-- **A path cannot be expanded** exactly if it starts with the name of someone without a home. -/
theorem expandHome_eq_none_iff {p : Path} {homes : String → Option String} :
    p.expandHome? homes = none ↔ p.Homeless homes := by
  -- The root stands for a home directory whose text is nothing but slashes.
  have hroot : ∀ t : String, (if t.isEmpty then "/" else t).startsWith "~" = t.startsWith "~" := by
    intro t
    split_ifs with ht
    · rw [String.isEmpty_iff.mp ht]
      decide +kernel
    · rfl
  unfold expandHome?
  obtain ⟨root, names⟩ := p
  split
  · next first rest hempty hnames =>
    obtain rfl : root = "" := hempty
    obtain rfl : names = first :: rest := hnames
    rw [homeless_cons_iff]
    by_cases htilde : first.startsWith "~" = true
    · rw [if_pos htilde, and_iff_right htilde]
      cases homeOf? homes first with
      | none => exact iff_of_true rfl nofun
      | some h =>
        simp only [hroot, Option.some.injEq, forall_eq']
        split_ifs with hnested
        · exact iff_of_true rfl hnested
        · exact iff_of_false nofun hnested
    · rw [if_neg htilde]
      exact iff_of_false nofun fun h => htilde h.1
  · next hpath =>
    refine iff_of_false nofun ?_
    rintro ⟨hempty, first, rest, hnames, -⟩
    exact hpath first rest hempty hnames

end Path

/-! ### What is found -/

namespace Tree

theorem entry_of_follow {t : Tree} {names : List String} {start l : Location} {e : Entry}
    (h : t.follow names start = .ok (l, e)) :
    l = Path.resolveNames start names ∧ t.entry? l = some e := by
  induction names generalizing start with
  | nil =>
    rw [follow] at h
    cases hentry : t.entry? start with
    | none =>
      rw [hentry] at h
      cases h
    | some e' =>
      rw [hentry] at h
      cases h
      exact ⟨rfl, hentry⟩
  | cons n names ih =>
    rw [follow] at h
    split at h
    · cases h
    · cases h
    · by_cases hlong : 255 < n.utf8ByteSize
      · rw [if_pos hlong] at h
        cases h
      · rw [if_neg hlong] at h
        exact ih h

/-- **What is found at a path** is what stands at the location that the path leads to. -/
theorem entry_of_find {t : Tree} {cwd l : Location} {p : Path} {e : Entry}
    (h : t.find cwd p = .ok (l, e)) : l = p.resolve cwd ∧ t.entry? l = some e := by
  unfold find at h
  by_cases hnull : p.render.toList.contains '\x00' = true
  · rw [if_pos hnull] at h
    cases h
  by_cases hlong : 4096 ≤ p.render.utf8ByteSize
  · rw [if_neg hnull, if_pos hlong] at h
    cases h
  · rw [if_neg hnull, if_neg hlong] at h
    exact entry_of_follow h

end Tree

end Files

end ItemCatalog
