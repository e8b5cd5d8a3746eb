import ItemCatalog.Population.Source
import ItemCatalog.Proofs.Resource.FileAddress

/-! # Local files: what the source of a local file is read from

A source that is found in the base directory is the address of a file, made from the location where
the file was found (`local_eq_some`). The names of that location are names of files and directories,
whatever the base directory was named (`isName_resolve`). So the loader reads that file from the
source, unless the text of its path holds percent signs with two digits after them: then it reads
another location (`local_source_fetched`). -/

namespace ItemCatalog.Population.Source

open Files Resource Text.Percent

variable {s : Settings} {c : Config} {around : Surroundings} {base : Path} {src : Source}

/-! ### Locations of local files -/

/-- Expanding the home directory leaves names and ways upwards. -/
theorem isName_of_mem_expandHome {text : String} {homes : String → Option String} {p : Path}
    (h : (Path.ofText text).expandHome? homes = some p) : ∀ n ∈ p.names, n = ".." ∨ IsName n := by
  have hread : ∀ t : String, ∀ n ∈ (Path.ofText t).names, n = ".." ∨ IsName n :=
    fun t n hn => Path.isName_of_mem_ofText hn
  unfold Path.expandHome? at h
  split at h
  · next first rest hroot hnames =>
    have hrest : ∀ n ∈ rest, n = ".." ∨ IsName n := fun n hn =>
      hread text n (hnames ▸ List.mem_cons_of_mem first hn)
    by_cases htilde : first.startsWith "~" = true
    · rw [if_pos htilde] at h
      split at h
      · simp only at h
        split_ifs at h
        -- The home directory is the root if nothing is left of its text without slashes.
        all_goals
          cases h
          intro n hn
          rcases List.mem_append.mp hn with hn | hn
          · exact hread _ n hn
          · exact hrest n hn
      · cases h
    · rw [if_neg htilde] at h
      cases h
      exact hread text
  · cases h
    exact hread text

/-- **The base directory** is the path that is named, with its tilde expanded. -/
theorem baseDirectory_eq_ok_iff : baseDirectory c around = .ok base ↔
    (c.get baseSetting).isOverlong = false ∧
      (Path.ofText (baseText c)).expandHome? around.home = some base := by
  unfold baseDirectory
  cases (c.get baseSetting).isOverlong with
  | true => simp
  | false => cases hexpand : (Path.ofText (baseText c)).expandHome? around.home <;> simp [hexpand]

/-- Every name of a base directory is a name, or leads upwards. -/
theorem isName_of_mem_base (hbase : baseDirectory c around = .ok base) :
    ∀ n ∈ base.names, n = ".." ∨ IsName n :=
  isName_of_mem_expandHome (baseDirectory_eq_ok_iff.mp hbase).2

/-- The location of a name in a base directory consists of names, and is not the root. -/
theorem isName_resolve (hdirectory : ∀ n ∈ around.directory, IsName n)
    (hbase : baseDirectory c around = .ok base) {name : String} (hname : IsName name) :
    (∀ n ∈ (base.child name).resolve around.directory, IsName n) ∧
      (base.child name).resolve around.directory ≠ [] := by
  constructor
  · refine Path.isName_of_mem_resolveNames ?_ ?_
    · split_ifs
      · exact hdirectory
      · exact fun n hn => absurd hn List.not_mem_nil
    · intro n hn
      rcases List.mem_append.mp hn with hn | hn
      · exact isName_of_mem_base hbase n hn
      · rw [List.mem_singleton.mp hn]
        exact Or.inr hname
  · rw [Path.resolve, Path.child, Path.resolveNames, List.foldl_append, List.foldl_cons,
      List.foldl_nil, if_neg hname.ne_above]
    exact List.append_ne_nil_of_right_ne_nil _ (List.cons_ne_nil name [])

theorem isFile_iff {p : Path} : around.isFile p = true ↔
    ∃ l bytes, around.files.find around.directory p = .ok (l, .file bytes) := by
  unfold Surroundings.isFile Tree.isFile
  rcases around.files.find around.directory p with e | ⟨l, bytes | _⟩ <;> simp

theorem ofFile_eq_some_iff {name : String} {mode : PopulateMode} {deprecated : Bool}
    {src : Source} : ofFile? around base name mode deprecated = some src ↔
      around.isFile (base.child name) = true ∧
        src = ⟨(around.resolve (base.child name)).toUri, mode, "local " ++ name, deprecated⟩ := by
  unfold ofFile?
  simp only
  split_ifs with hfile <;> simp [hfile, eq_comm]

/-- A local source is the address of a file that was found. -/
theorem local_eq_some (h : local? around base = some src) :
    ∃ name ∈ ["catalog.bom", "catalog.xml"], around.isFile (base.child name) = true ∧
      src.uri = (around.resolve (base.child name)).toUri := by
  rcases Option.or_eq_some_iff.mp h with hbom | ⟨-, hxml⟩
  · obtain ⟨hfile, rfl⟩ := ofFile_eq_some_iff.mp hbom
    exact ⟨"catalog.bom", by simp, hfile, rfl⟩
  · obtain ⟨hfile, rfl⟩ := ofFile_eq_some_iff.mp hxml
    exact ⟨"catalog.xml", by simp, hfile, rfl⟩

theorem isName_of_mem_files {name : String} (h : name ∈ ["catalog.bom", "catalog.xml"]) :
    IsName name := by
  revert name
  decide

/-- What is found as a file is a file at its location. -/
theorem entry_of_isFile {p : Path} (h : around.isFile p = true) :
    ∃ bytes, around.files.entry? (p.resolve around.directory) = some (.file bytes) := by
  obtain ⟨l, bytes, hfind⟩ := isFile_iff.mp h
  obtain ⟨rfl, hentry⟩ := Tree.entry_of_find hfind
  exact ⟨bytes, hentry⟩

/-! ### Reading local files -/

/-- **The source of a local file** is read from the location where the file was found if the text of
its path holds no percent sign with two digits after it, and from another one if it does. -/
theorem local_source_fetched (providers : List Provider) (first : Bool) {l : Loader}
    (hdirectory : ∀ n ∈ around.directory, IsName n) (hallowed : s.disallowLocal = false)
    (hsettings : ofSettings? s = none) (hconfig : ofConfig? c = none)
    (hbase : baseDirectory c around = .ok base) (hlocal : local? around base = some src)
    (hhandlers : l.handlers.lookup "file" = none) :
    (resolve s c around providers first).result = .ok (some src) ∧
      ∃ name ∈ ["catalog.bom", "catalog.xml"], ∃ p q : Path,
        p = around.resolve (base.child name) ∧ q = .ofText (decode p.render) ∧
        src.uri = p.toUri ∧
        (∃ bytes, around.files.entry? p.names = some (.file bytes)) ∧
        (l.fetch around src.uri).result = (l.readPath around q).mapError (Loader.wrap src.uri) ∧
        (¬ HasGroup p.render.toList → q = p) ∧
        (around.resolve q = p ↔ ¬ HasGroup p.render.toList) := by
  obtain ⟨name, hname, hfile, huri⟩ := local_eq_some hlocal
  obtain ⟨hnames, hne⟩ := isName_resolve hdirectory hbase (isName_of_mem_files hname)
  refine ⟨?_, name, hname, _, _, rfl, rfl, huri, entry_of_isFile hfile, ?_, ?_, ?_⟩
  · unfold resolve found
    simp only [hallowed, hsettings, hconfig, hbase, hlocal]
    rfl
  · rw [huri]
    exact fetch_toUri (Path.render_ofLocation _) hhandlers around
  · exact ofText_decode_render hnames
  · have hiff := resolve_decode_render_iff hne hnames around.directory
    exact ⟨fun heq => hiff.mp (congrArg Path.names heq),
      fun hgroup => congrArg Path.ofLocation (hiff.mpr hgroup)⟩

/-- Two directories with a file of the same name in each: the name of one directory is read as that
of the other. -/
def siblings : Surroundings :=
  { files := ⟨[(["srv"], .directory), (["srv", "A"], .directory),
      (["srv", "A", "catalog.bom"], .file [49]), (["srv", "%41"], .directory),
      (["srv", "%41", "catalog.bom"], .file [50])]⟩ }

/-- A configuration that names a base directory. -/
def basedAt (text : String) : Config :=
  { settings := [(.text "runtime", .map [(.text "base_dir", .text text)])] }

/-- A loader without handlers. -/
def plainLoader : Loader :=
  { timeout := .null }

/-- In a directory with an ordinary name. -/
theorem local_source_fetched_from_srv :
    (resolve {} (basedAt "/srv/A") siblings [] true).result =
        .ok (some ⟨"file:///srv/A/catalog.bom", .yaml, "local catalog.bom", false⟩) ∧
      ∃ p q : Path, (∃ bytes, siblings.files.entry? p.names = some (.file bytes)) ∧
        (plainLoader.fetch siblings "file:///srv/A/catalog.bom").result =
          (plainLoader.readPath siblings q).mapError (Loader.wrap "file:///srv/A/catalog.bom") ∧
        (¬ HasGroup p.render.toList → q = p) := by
  have hbase : baseDirectory (basedAt "/srv/A") siblings = .ok ⟨"/", ["srv", "A"]⟩ := rfl
  have hlocal : local? siblings ⟨"/", ["srv", "A"]⟩ =
      some ⟨"file:///srv/A/catalog.bom", .yaml, "local catalog.bom", false⟩ := by decide +kernel
  obtain ⟨hresolve, name, -, p, q, -, -, -, hentry, hfetch, hsame, -⟩ :=
    local_source_fetched (s := {}) [] true (by nofun) rfl rfl rfl hbase hlocal
      (show plainLoader.handlers.lookup "file" = none from rfl)
  exact ⟨hresolve, p, q, hentry, hfetch, hsame⟩

/-- In a directory whose name holds a percent sign and two digits, the file of the other directory
is read. -/
theorem local_source_of_sibling :
    (resolve {} (basedAt "/srv/%41") siblings [] true).result.toOption =
        some (some ⟨"file:///srv/%2541/catalog.bom", .yaml, "local catalog.bom", false⟩) ∧
      (plainLoader.readPath siblings ⟨"/", ["srv", "%41", "catalog.bom"]⟩).toOption = some "2" ∧
      (plainLoader.fetch siblings "file:///srv/%2541/catalog.bom").result.toOption = some "1" := by
  decide +kernel

end ItemCatalog.Population.Source
