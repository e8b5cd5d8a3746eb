import ItemCatalog.Document.Structured
import ItemCatalog.Proofs.Resource.Reporting
import ItemCatalog.Proofs.Yaml.Faults

/-! # Reporting: what gets out of reading a structured document

Whatever is wrong with the value of a document is reported with the source of the document
(`itemsOfValue_reports`), and so is a text that breaks the rules of the format. Other faults of a
text get out as they are: an escape that names no code point, and a scalar that does not fit its
type (`structuredItems_reports_iff`). -/

namespace ItemCatalog.Document

/-- A fault that says, with the source, that a document holds no items. -/
def IsReport (source : Option String) (e : Fault) : Prop :=
  ∃ detail cause, e = .parse detail source cause

theorem isReport_parse (detail : String) (source : Option String) (cause : Option Fault) :
    IsReport source (.parse detail source cause) :=
  ⟨detail, cause, rfl⟩

theorem ofYaml_recordable (words : String) (e : Yaml.Fault) :
    Recordable (Fault.ofYaml words e) := by
  rw [Recordable, Fault.ofYaml.eq_def]
  split <;> rfl

/-- The fault of a reader is no report. -/
theorem ofYaml_not_isReport (source : Option String) (words : String) (e : Yaml.Fault) :
    ¬ IsReport source (.ofYaml words e) := by
  rintro ⟨detail, cause, he⟩
  rw [Fault.ofYaml.eq_def] at he
  split at he <;> cases he

section

variable {source : Option String} {w : Wording}

theorem buildItem_reports (fields : Entries) (place : String) :
    FaultsAre (IsReport source) (buildItem w fields source place) := by
  rw [buildItem]
  cases Item.validate (labelled fields source) with
  | ok item => exact .pure item
  | error vs => exact .throw (isReport_parse _ _ _)

/-- Items are built one by one, by induction on the entries. -/
theorem buildEntries_reports (defaults : Entries) (index : Nat) (entries : List Value) :
    FaultsAre (IsReport source) (buildEntries w defaults source index entries) := by
  induction entries generalizing index with
  | nil => exact .pure []
  | cons entry rest ih =>
    rw [buildEntries]
    split
    · exact .throw (isReport_parse _ _ _)
    · exact .bind (buildItem_reports _ _) fun _ _ => .bind (ih _) fun _ _ => .pure _

theorem sectionEntries_reports (sec : Entries) (whole : Value) :
    FaultsAre (IsReport source) (sectionEntries sec whole source) := by
  rw [sectionEntries]
  split
  · split
    · exact .pure []
    · split
      · exact .pure _
      · exact .throw (isReport_parse _ _ _)
  · split
    · exact .pure _
    · exact .throw (isReport_parse _ _ _)

/-- **Values.** What is wrong with the value of a document is reported with its source. -/
theorem itemsOfValue_reports (data : Value) :
    FaultsAre (IsReport source) (itemsOfValue w data source) := by
  rw [itemsOfValue]
  split
  · exact .throw (isReport_parse _ _ _)
  · split
    · exact .throw (isReport_parse _ _ _)
    · exact .bind (sectionEntries_reports _ _) fun _ _ => buildEntries_reports _ _ _

/-- A fault of a text that does not break the rules of the format gets out as it is. -/
theorem structuredItems_of_fault {text : String} {e : Yaml.Fault}
    (h : Yaml.load text = .error e) (he : e ≠ .malformed) :
    structuredItems text source w = .error (.ofYaml (w.structured none text) e) := by
  rw [structuredItems, h]
  cases e with
  | malformed => exact absurd rfl he
  | _ => rfl

end

/-- **Reading a document.** What is wrong with a text is reported with its source exactly if the
text has a value or breaks the rules of the format. Any other fault gets out as it is, and it may be
recorded: an escape names no code point, or a text of the document does not fit the type of one of
its nodes. -/
theorem structuredItems_reports_iff (text : String) (source : Option String) (w : Wording) :
    (FaultsAre (IsReport source) (structuredItems text source w) ↔
      ∀ e, Yaml.load text = .error e → e = .malformed) ∧
    ∀ e, Yaml.load text = .error e → e ≠ .malformed →
      structuredItems text source w = .error (.ofYaml (w.structured none text) e) ∧
      ¬ IsReport source (.ofYaml (w.structured none text) e) ∧
      Recordable (.ofYaml (w.structured none text) e) ∧
      (e = .codePoint ∨
        ∃ g, Yaml.Graph.ofText text.toList = .ok (some g) ∧ Yaml.Build.Misfit g.nodes e) := by
  refine ⟨⟨fun hreports e he => ?_, fun hload => ?_⟩, fun e he hne => ?_⟩
  · refine Decidable.byContradiction fun hne => ?_
    exact ofYaml_not_isReport source _ e (hreports _ (structuredItems_of_fault he hne))
  · rcases h : Yaml.load text with e | data
    · cases hload e h
      rw [structuredItems, h]
      exact .throw (isReport_parse _ _ _)
    · rw [structuredItems, h]
      exact itemsOfValue_reports data
  · refine ⟨structuredItems_of_fault he hne, ofYaml_not_isReport source _ e,
      ofYaml_recordable _ e, ?_⟩
    rcases Yaml.load_faults he with (rfl | rfl) | hmisfit
    · exact absurd rfl hne
    · exact .inl rfl
    · exact .inr hmisfit

/-- A document that is a day which does not exist. -/
def missingDay : String := "catalog: 2001-02-30"

theorem load_missingDay : Yaml.load missingDay = .error (.calendar .day) := by
  have h : (match Yaml.load missingDay with
    | .ok _ => none
    | .error e => some e) = some (.calendar .day) := by decide +kernel
  split at h
  · cases h
  · rename_i e he
    rw [he, Option.some.inj h]

/-- The fault of a day that does not exist gets out as it is. -/
theorem structuredItems_of_missingDay :
    structuredItems missingDay (some "mem://a") =
      .error (.failure .value "day is out of range for month") ∧
    ¬ FaultsAre (IsReport (some "mem://a")) (structuredItems missingDay (some "mem://a")) := by
  have hresult : structuredItems missingDay (some "mem://a") =
      .error (.failure .value "day is out of range for month") :=
    structuredItems_of_fault load_missingDay nofun
  refine ⟨hresult, fun hreports => ?_⟩
  obtain ⟨detail, cause, he⟩ := hreports _ hresult
  cases he

end ItemCatalog.Document
