import ItemCatalog.Proofs.Files.Path
import ItemCatalog.Proofs.Text.Percent
import ItemCatalog.Resource.Loader
import Mathlib.Data.List.TakeWhile

/-! # Addresses of files: which file they are read from

The address of a location holds no character with a meaning in addresses but those of its own form,
so that it falls into the parts it was made of (`ofText_toUri`). Its path is read twice: once takes
back what was written, and a second time also reads the groups that the text of the location held
from the start (`fetch_toUri`). So the file is found again exactly if there are no such groups
(`resolve_decode_render_iff`). -/

namespace ItemCatalog

open Files Text.Percent

namespace Resource

/-! ### Characters of addresses -/

/-- A character that the path of a file has in an address. -/
def isWritten (c : Char) : Bool :=
  Path.isPlain c || c == '%'

theorem isWritten_of_mem_encode {s : String} {c : Char} (h : c ∈ (encode Path.isPlain s).toList) :
    isWritten c = true := by
  have hdigit : ∀ n < 16, isWritten (Text.hexDigit n).toUpper = true := by decide
  rw [encode, String.toList_ofList] at h
  obtain ⟨b, -, hb⟩ := List.mem_flatMap.mp h
  rcases encodeByte_cases Path.isPlain b with ⟨-, hplain, hbyte⟩ | ⟨m, hm, n, hn, -, hbyte⟩
  · rw [hbyte, List.mem_singleton] at hb
    rw [hb, isWritten, hplain, Bool.true_or]
  · rw [hbyte] at hb
    simp only [List.mem_cons, List.not_mem_nil, or_false] at hb
    rcases hb with rfl | rfl | rfl
    · rfl
    · exact hdigit m hm
    · exact hdigit n hn

/-- A written character is no blank, and ends no path. -/
theorem isWritten_bounds {c : Char} (h : isWritten c = true) :
    32 < c.toNat ∧ c.toNat ≠ '?'.toNat ∧ c.toNat ≠ '#'.toNat := by
  have hsmall : ∀ n < 64, isWritten (Char.ofNat n) = true →
      32 < n ∧ n ≠ '?'.toNat ∧ n ≠ '#'.toNat := by decide
  by_cases hc : c.toNat < 64
  · exact hsmall c.toNat hc (by rwa [Char.ofNat_toNat])
  · have hquestion : '?'.toNat = 63 := rfl
    have hhash : '#'.toNat = 35 := rfl
    omega

/-! ### The parts of an address -/

theorem toList_file (s : String) :
    ("file://" ++ s).toList = ['f', 'i', 'l', 'e', ':', '/', '/'] ++ s.toList := by
  rw [String.toList_append]
  rfl

/-- **The address of a file** falls into its scheme and its path. -/
theorem ofText_file {s : String} {rest : List Char} (hs : s.toList = '/' :: rest)
    (hwritten : ∀ c ∈ s.toList, isWritten c = true) :
    Address.ofText ("file://" ++ s) = .ok ⟨"file", "", s⟩ := by
  have hbeyond : ∀ c ∈ ("file://" ++ s).toList, 32 < c.toNat := by
    have hstart : ∀ c ∈ ['f', 'i', 'l', 'e', ':', '/', '/'], 32 < c.toNat := by simp
    rw [toList_file]
    intro c hc
    rcases List.mem_append.mp hc with hc | hc
    · exact hstart c hc
    · exact (isWritten_bounds (hwritten c hc)).1
  have hclean : Address.clean ("file://" ++ s).toList = ("file://" ++ s).toList := by
    have hall : ∀ c ∈ ("file://" ++ s).toList, (c != '\t' && c != '\n' && c != '\r') = true := by
      intro c hc
      have hc := hbeyond c hc
      simp only [Bool.and_eq_true, bne_iff_ne, ne_eq]
      refine ⟨⟨?_, ?_⟩, ?_⟩ <;> rintro rfl <;> exact absurd hc (by decide)
    have hdrop : ("file://" ++ s).toList.dropWhile (fun c => c.toNat ≤ 32) =
        ("file://" ++ s).toList := by
      rw [toList_file]
      rfl
    rw [Address.clean, hdrop, List.filter_eq_self.mpr hall]
  have hscheme : Address.splitScheme ("file://" ++ s).toList =
      (['f', 'i', 'l', 'e'], '/' :: '/' :: s.toList) := by
    rw [toList_file]
    rfl
  have hauthority : Address.splitAuthority ('/' :: '/' :: s.toList) = ([], s.toList) := by
    rw [hs]
    rfl
  have hpath : s.toList.takeWhile (fun c => c != '?' && c != '#') = s.toList := by
    rw [List.takeWhile_eq_self_iff]
    intro c hc
    obtain ⟨-, hquestion, hhash⟩ := isWritten_bounds (hwritten c hc)
    simp only [Bool.and_eq_true, bne_iff_ne, ne_eq]
    exact ⟨fun heq => hquestion (congrArg Char.toNat heq),
      fun heq => hhash (congrArg Char.toNat heq)⟩
  rw [Address.ofText, hclean, hscheme]
  simp only [hauthority, hpath, String.ofList_toList]
  rfl

/-! ### Reading a file by its address -/

section

variable {p : Path} {rest : List Char} (hp : p.render.toList = '/' :: rest)
include hp

theorem encode_render : ∃ rest', (encode Path.isPlain p.render).toList = '/' :: rest' := by
  refine encode_cons hp ?_ ?_ <;> decide

theorem ofText_toUri : Address.ofText p.toUri = .ok ⟨"file", "", encode Path.isPlain p.render⟩ := by
  obtain ⟨rest', hrest⟩ := encode_render hp
  exact ofText_file hrest fun c => isWritten_of_mem_encode

/-- The path that the address of a file means: the text of the file's own one, with its groups
read. -/
theorem pathOf_toUri : Loader.pathOf ⟨"file", "", encode Path.isPlain p.render⟩ p.toUri =
    .ofText (decode p.render) := by
  obtain ⟨rest', hrest⟩ := encode_render hp
  have hslash : (encode Path.isPlain p.render).startsWith "/" = true := by
    rw [String.startsWith_string_iff, hrest, Path.toList_slash]
    exact List.prefix_append ['/'] rest'
  rw [Loader.pathOf, if_pos rfl, if_pos (by rw [hslash, Bool.or_true]), decode_encode (by decide)]

/-- **Fetching the address of a file** reads the path of its text with the groups read. -/
theorem fetch_toUri {l : Loader} (hhandlers : l.handlers.lookup "file" = none)
    (around : Surroundings) : (l.fetch around p.toUri).result =
      (l.readPath around (.ofText (decode p.render))).mapError (Loader.wrap p.toUri) := by
  have hblank : Text.allBlank p.toUri = false := by
    rw [Text.allBlank, Path.toUri, toList_file]
    rfl
  have hroute : l.route "file" = .file := by
    rw [Loader.route, hhandlers]
    rfl
  have hexpand : (Path.ofText (decode p.render)).expandHome? around.home =
      some (Path.ofText (decode p.render)) := by
    obtain ⟨rest', hrest⟩ := decode_cons hp (by decide)
    exact Path.expandHome_of_root (Path.root_ofText hrest) around.home
  have hread : l.readFile around ⟨"file", "", encode Path.isPlain p.render⟩ p.toUri =
      l.readPath around (.ofText (decode p.render)) := by
    rw [Loader.readFile, pathOf_toUri hp, hexpand]
  rw [Loader.fetch, hblank, ofText_toUri hp]
  simp only [hroute, hread]
  rfl

end

/-! ### Where the address leads -/

/-- Without groups in its text, the address of a location means this location. -/
theorem ofText_decode_render {l : Location} (hl : ∀ n ∈ l, IsName n)
    (hgroup : ¬ HasGroup (Path.ofLocation l).render.toList) :
    Path.ofText (decode (Path.ofLocation l).render) = Path.ofLocation l := by
  rw [decode_of_no_group hgroup, Path.ofText_render hl]

/-- With groups in its text, the address of a location leads to another one: its text gets shorter
when it is read once too often. -/
theorem resolve_decode_render_ne {l : Location} (hne : l ≠ []) (hl : ∀ n ∈ l, IsName n)
    (hgroup : HasGroup (Path.ofLocation l).render.toList) (cwd : Location) :
    (Path.ofText (decode (Path.ofLocation l).render)).resolve cwd ≠ l := by
  intro heq
  obtain ⟨rest, hrest⟩ := decode_cons (Path.render_ofLocation l) (by decide)
  have hwidth := Path.width_resolve_le cwd hrest
  have hshorter := length_decode_lt hgroup
  rw [heq] at hwidth
  rw [Path.length_render hne hl] at hshorter
  omega

/-- **The address of a location** leads to it exactly if there are no groups in its text. -/
theorem resolve_decode_render_iff {l : Location} (hne : l ≠ []) (hl : ∀ n ∈ l, IsName n)
    (cwd : Location) : (Path.ofText (decode (Path.ofLocation l).render)).resolve cwd = l ↔
      ¬ HasGroup (Path.ofLocation l).render.toList := by
  constructor
  · exact fun heq hgroup => resolve_decode_render_ne hne hl hgroup cwd heq
  · intro hgroup
    rw [ofText_decode_render hl hgroup, Path.resolve_ofLocation hl]

end Resource

end ItemCatalog
