import ItemCatalog.Population.Pass
import ItemCatalog.Proofs.Document.Mirror

/-! # Records: what the stages of a pass say

Most of what is said during a pass are details. A few records are warnings, and each kind of warning
opens with words of its own. What the work of the stages says warns neither of a load mode nor of an
odd state of the context (`IsWork`). -/

namespace ItemCatalog.Population

/-- A warning of the initialization with some words at its start. -/
def Warns (opening : String) (r : Log.Record) : Prop :=
  ∃ rest fault, r = Log.initialization.warning (opening ++ rest) fault

/-- The words that warn of a load mode. -/
def modeOpening : String := "Legacy catalog load mode "

/-- The words that warn of a context that is not as the count of passes says. -/
def oddOpening : String := "Odd: "

/-- What the work of the stages says: it warns neither of a load mode nor of an odd state. -/
structure IsWork (r : Log.Record) : Prop where
  mode : ¬ Warns modeOpening r
  odd : ¬ Warns oddOpening r

theorem warning_inj {m m' : String} {f f' : Option (Option Fault)}
    (h : Log.initialization.warning m f = Log.initialization.warning m' f') : m = m' := by
  have htext := congrArg (fun r => r.text.toList) h
  have hstyle : "bold yellow".isEmpty = false := rfl
  simp only [Log.Component.warning, Log.Component.styled, hstyle, Bool.false_eq_true, if_false,
    String.toList_append, List.append_assoc, List.append_cancel_left_eq,
    List.append_cancel_right_eq] at htext
  exact String.toList_inj.mp htext

/-- The words at the start of a warning are those of its text. -/
theorem warns_iff {opening m : String} {f : Option (Option Fault)} :
    Warns opening (Log.initialization.warning m f) ↔ ∃ rest, m = opening ++ rest :=
  ⟨fun ⟨rest, _, h⟩ => ⟨rest, warning_inj h⟩, fun ⟨rest, h⟩ => ⟨rest, f, by rw [h]⟩⟩

theorem not_warns_of_level {opening : String} {r : Log.Record} (h : r.level ≠ Log.warning) :
    ¬ Warns opening r := by
  rintro ⟨rest, fault, rfl⟩
  exact h rfl

/-- A text with another first letter opens with other words. -/
theorem not_opens {opening m : String} {c d : Char} (ho : opening.toList.head? = some c)
    (hm : m.toList.head? = some d) (hcd : c ≠ d) : ¬ ∃ rest, m = opening ++ rest := by
  rintro ⟨rest, rfl⟩
  rw [String.toList_append, List.head?_append, ho] at hm
  exact hcd (Option.some.inj hm)

theorem head_append {m : String} {c : Char} (h : m.toList.head? = some c) (rest : String) :
    (m ++ rest).toList.head? = some c := by
  rw [String.toList_append, List.head?_append, h]
  rfl

/-- A detail is work. -/
theorem isWork_of_level {r : Log.Record} (h : r.level ≠ Log.warning) : IsWork r :=
  ⟨not_warns_of_level h, not_warns_of_level h⟩

/-- So is a warning that starts with another letter. -/
theorem isWork_warning {m : String} {c : Char} (f : Option (Option Fault))
    (hm : m.toList.head? = some c) (hL : c ≠ 'L') (hO : c ≠ 'O') :
    IsWork (Log.initialization.warning m f) :=
  ⟨fun h => not_opens rfl hm hL.symm (warns_iff.mp h),
    fun h => not_opens rfl hm hO.symm (warns_iff.mp h)⟩

theorem isWork_debug (c : Log.Component) (m : String) : IsWork (c.debug m) :=
  isWork_of_level (show Log.debug ≠ Log.warning by decide)

/-- Records that are all work. -/
def AllWork (log : List Log.Record) : Prop :=
  ∀ r ∈ log, IsWork r

namespace AllWork

variable {r : Log.Record} {log log' : List Log.Record}

theorem nil : AllWork [] := nofun

theorem cons (h : IsWork r) (hlog : AllWork log) : AllWork (r :: log) :=
  List.forall_mem_cons.mpr ⟨h, hlog⟩

theorem single (h : IsWork r) : AllWork [r] := cons h nil

theorem append (h : AllWork log) (h' : AllWork log') : AllWork (log ++ log') :=
  List.forall_mem_append.mpr ⟨h, h'⟩

/-- What is taken of it is work. -/
theorem of_prefix (h : AllWork log) (hfront : log' <+: log) : AllWork log' :=
  fun r hr => h r (hfront.subset hr)

theorem details (c : Log.Component) (m : String) : AllWork [c.debug m] := single (isWork_debug c m)

end AllWork

/-- Records that are all details. -/
def AllDetails (log : List Log.Record) : Prop :=
  ∀ r ∈ log, r.level = Log.debug

namespace AllDetails

variable {log log' : List Log.Record}

theorem nil : AllDetails [] := nofun

theorem single (c : Log.Component) (m : String) : AllDetails [c.debug m] :=
  List.forall_mem_singleton.mpr rfl

theorem append (h : AllDetails log) (h' : AllDetails log') : AllDetails (log ++ log') :=
  List.forall_mem_append.mpr ⟨h, h'⟩

theorem work (h : AllDetails log) : AllWork log :=
  fun r hr => isWork_of_level (by rw [h r hr]; decide)

end AllDetails

/-- Records of which none warns of a load mode. -/
def NoMode (log : List Log.Record) : Prop :=
  ∀ r ∈ log, ¬ Warns modeOpening r

theorem NoMode.of_prefix {log log' : List Log.Record} (h : NoMode log) (hfront : log' <+: log) :
    NoMode log' :=
  fun r hr => h r (hfront.subset hr)

theorem AllWork.noMode {log : List Log.Record} (h : AllWork log) : NoMode log :=
  fun r hr => (h r hr).mode

/-! ### Sources and loads -/

theorem sourceNotes_work (s : Source) : AllWork (sourceNotes s) := by
  refine AllWork.append ?_ (.details _ _)
  split
  · refine .single (isWork_warning _ (c := 'R') ?_ (by decide) (by decide))
    exact head_append (head_append (head_append rfl _) _) _
  · exact .nil

theorem failedNote_work (p : Provider) (e : Fault) : IsWork (Source.failedNote p e) :=
  isWork_warning _ (c := 'F')
    (head_append (head_append (head_append rfl _) _) _) (by decide) (by decide)

/-- What is said about providers is work, by induction on them. -/
theorem offered_work (console : Log.Console) (providers : List Provider) :
    AllWork (Source.offered console providers).log := by
  induction providers with
  | nil => exact .nil
  | cons p rest ih =>
    rw [Source.offered]
    repeat' split
    · exact .nil
    · exact ih
    · exact .nil
    · exact .nil
    · exact .cons (failedNote_work p _) ih

theorem resolve_work (s : Settings) (c : Config) (around : Surroundings)
    (providers : List Provider) (firstPass : Bool) :
    AllWork (Source.resolve s c around providers firstPass).log := by
  unfold Source.resolve
  split
  · dsimp only
    split
    · exact .details _ _
    · exact .nil
  · split
    · exact .nil
    · unfold Source.found
      repeat' split
      · exact .nil
      · exact .nil
      · exact .nil
      · exact offered_work _ providers

theorem fetch_details (l : Resource.Loader) (s : Surroundings) (uri : String) :
    AllDetails (l.fetch s uri).log := by
  unfold Resource.Loader.fetch
  split
  · exact .nil
  · split
    · exact .nil
    · dsimp only
      split <;> exact .single _ _

theorem legacyDocument_details (text : String) (source : Option String) (w : Wording) :
    AllDetails (Document.legacyDocument text source w).2 := by
  unfold Document.legacyDocument
  split
  · unfold Document.legacyOfTree
    split
    · exact fun r hr => (Document.legacyItems_notes _ _ r hr).1
    · exact .nil
  · exact .nil

section Attempts

variable {l : Load} (h : AllDetails l.log) (text : String) (w : Wording)

include h

theorem tryStructured_details : AllDetails (l.tryStructured w text).log := by
  unfold Load.tryStructured
  dsimp only
  split <;> exact h.append (.single _ _)

theorem tryLegacy_details : AllDetails (l.tryLegacy w text).log := by
  have hlog := legacyDocument_details text (some l.result.uri) w
  unfold Load.tryLegacy
  split <;> rename_i hd <;> rw [hd] at hlog
  · exact (h.append hlog).append (.single _ _)
  · exact h.append hlog

/-- **What the attempts on a text say** are details. -/
theorem attempts_details : AllDetails (l.attempts w text).log := by
  have hyaml : AllDetails (if l.result.mode.allowsYaml then l.tryStructured w text else l).log := by
    split
    · exact tryStructured_details h text w
    · exact h
  unfold Load.attempts
  generalize (if l.result.mode.allowsYaml then l.tryStructured w text else l) = l' at hyaml ⊢
  dsimp only
  split
  · exact tryLegacy_details hyaml text w
  · exact hyaml

end Attempts

theorem endNotes_work (r : LoadResult) : AllWork (Load.endNotes r) := by
  unfold Load.endNotes
  split
  · exact .details _ _
  · exact .details _ _
  · refine .single (isWork_warning _ (c := 'E') ?_ (by decide) (by decide))
    exact head_append (head_append (head_append rfl _) _) _
  · exact .nil

/-- **What a load says** is work. -/
theorem loadInitial_work (c : Catalog) (uri : String) (mode : PopulateMode)
    (content : Except Fault String) (w : Wording) :
    AllWork (loadInitial c uri mode content w).2.2 := by
  unfold loadInitial
  split
  · exact (attempts_details .nil _ w).work.append (endNotes_work _)
  · split
    · exact .nil
    · exact AllWork.append .nil (endNotes_work _)

theorem additionsNote_work : IsWork additionsNote :=
  isWork_warning _ (c := 'C') rfl (by decide) (by decide)

/-! ### Passes -/

theorem recreateNote_noMode : NoMode [recreateNote] :=
  List.forall_mem_singleton.mpr fun h => not_opens (c := 'L') (d := 'O') rfl rfl (by decide)
    (warns_iff.mp h)

theorem repopulateNote_noMode : NoMode [repopulateNote] :=
  List.forall_mem_singleton.mpr fun h => not_opens (c := 'L') (d := 'O') rfl rfl (by decide)
    (warns_iff.mp h)

/-- The warning that a catalog was there already is what the message makes it. -/
theorem alreadyNote_work {m : String} {c : Char} (hm : m.toList.head? = some c) (hL : c ≠ 'L')
    (hO : c ≠ 'O') : AllWork (alreadyNote (some m)) := by
  rw [alreadyNote]
  split
  · exact .nil
  · exact .single (isWork_warning _ hm hL hO)

theorem replacing_noMode :
    NoMode (alreadyNote (some replacingMessage)) :=
  (alreadyNote_work (c := 'R') rfl (by decide) (by decide)).noMode

theorem reverting_noMode : NoMode (alreadyNote (some revertingMessage)) :=
  (alreadyNote_work (c := 'R') rfl (by decide) (by decide)).noMode

end ItemCatalog.Population
