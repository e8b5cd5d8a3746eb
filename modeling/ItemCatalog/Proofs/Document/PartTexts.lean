import ItemCatalog.Proofs.Document.Mirror
import ItemCatalog.Proofs.Xml.Runs

/-! # Part texts: what an item keeps of its description and its plan

The description and the plan of an item are read from the first part of this name. An item keeps
the text that stands in front of the first part of its own there, an instruction, a reference that
is not resolved or an element (`frontText`); text that stands behind is cut off, and no note tells.
So the item has the whole text (`wholeText`) exactly if there are only blanks behind
(`legacy_texts_whole_iff`). -/

namespace ItemCatalog.Document

open Xml (Node directChars)

/-! ### Texts of a part -/

section Texts

variable (e : Xml.Element) (name : String)

/-- The parts of the first part of a name. -/
def innerParts : List Node :=
  (e.child? name).elim [] Xml.Element.children

/-- **The whole text** of the first part of a name: all that is written directly in it. -/
def wholeText : String :=
  Text.strip (String.ofList (directChars (innerParts e name)))

/-- The text in front of the first part that is no text, in the first part of a name. -/
def frontText : String :=
  Text.strip (String.ofList (directChars ((innerParts e name).takeWhile Node.isText)))

/-- What is written directly in the first part of a name behind its first part that is no text. -/
def charsBehind : List Char :=
  directChars ((innerParts e name).dropWhile Node.isText)

end Texts

/-- **A text is the front** of what an element says in its first part of a name, and it is the whole
exactly if only blanks stand behind. -/
structure IsFront (e : Xml.Element) (name : String) (given : String) : Prop where
  eq_frontText : given = frontText e name
  eq_wholeText_iff : given = wholeText e name ↔ ∀ c ∈ charsBehind e name, Text.isBlank c = true

theorem frontText_eq_wholeText_iff (e : Xml.Element) (name : String) :
    frontText e name = wholeText e name ↔ ∀ c ∈ charsBehind e name, Text.isBlank c = true := by
  have hsplit : directChars (innerParts e name) =
      directChars ((innerParts e name).takeWhile Node.isText) ++ charsBehind e name := by
    rw [charsBehind, ← Xml.directChars_append, List.takeWhile_append_dropWhile]
  rw [frontText, wholeText, hsplit, ← Text.stripChars_append_eq_iff, Text.strip, Text.strip,
    String.toList_ofList, String.toList_ofList, String.ofList_inj]
  exact eq_comm

theorem partText?_getD {e : Xml.Element} (h : Xml.Joined e.children) (name : String) :
    (partText? e name).getD "" = frontText e name := by
  cases hc : e.child? name with
  | none =>
    rw [partText?, frontText, innerParts, hc]
    rfl
  | some c =>
    have hfront := Xml.Element.leadingText?_getD (h.child hc)
    rw [partText?, frontText, innerParts, hc, Option.bind_some, Option.elim_some, ← hfront,
      String.ofList_toList]
    -- Nothing is left of the empty text either.
    exact Option.getD_map Text.strip "" _

theorem isFront_of_joined {e : Xml.Element} (h : Xml.Joined e.children) (name : String) :
    IsFront e name ((partText? e name).getD "") where
  eq_frontText := partText?_getD h name
  eq_wholeText_iff := by
    rw [partText?_getD h name]
    exact frontText_eq_wholeText_iff e name

/-! ### Documents -/

/-- The text of a plan; a plan that is no text has none. -/
def planText (i : Item) : String :=
  match i.plan with
  | .text s => s
  | _ => ""

theorem planText_eq {e : Xml.Element} {i : Item} {source : Option String}
    (h : Mirrors source e i) : planText i = (partText? e "plan").getD "" := by
  rw [planText, h.plan]
  cases partText? e "plan" <;> rfl

theorem legacyDocument_of_read {text : String} {root : Xml.Element}
    (h : Xml.read text = some root) (source : Option String) (w : Wording) :
    legacyDocument text source w = legacyOfTree w root source := by
  rw [legacyDocument, h]

/-- A document that is read mirrors the root of its text. -/
theorem exists_root_of_ok {text : String} {source : Option String} {w : Wording}
    {d : LegacyDocument} (h : (legacyDocument text source w).1 = .ok d) :
    ∃ root, Xml.read text = some root ∧
      root.name = .plain sectionKey ∧
      List.Forall₂ (Mirrors source) (root.elements.filter isItem) d.items := by
  cases hread : Xml.read text with
  | none =>
    rw [legacyDocument, hread] at h
    cases h
  | some root =>
    rw [legacyDocument_of_read hread] at h
    by_cases hroot : root.name = .plain sectionKey
    · exact ⟨root, rfl, hroot, ((legacyOfTree_eq_ok_iff hroot source d).mp h).2⟩
    · rw [legacyOfTree, if_neg (by simpa using hroot)] at h
      cases h

/-- **What an item keeps** of its description and its plan is the text in front of the first part in
them that is no text: it is the whole text exactly if only blanks stand behind. No note is about an
element that is an item, so what is cut off is cut off in silence. -/
theorem legacy_texts_whole_iff {text : String} {source : Option String} {w : Wording}
    {d : LegacyDocument} (h : (legacyDocument text source w).1 = .ok d) :
    ∃ root, Xml.read text = some root ∧
      List.Forall₂ (fun e i => IsFront e "description" (i.description.getD "") ∧
        IsFront e "plan" (planText i)) (root.elements.filter isItem) d.items ∧
      ∀ r ∈ (legacyDocument text source w).2,
        ∃ e ∈ root.elements, isItem e = false ∧ r = ignoredNote e source := by
  obtain ⟨root, hread, hroot, hmirrors⟩ := exists_root_of_ok h
  have hjoined : ∀ e ∈ root.elements.filter isItem, Xml.Joined e.children := by
    intro e he
    obtain ⟨part, hpart, he⟩ := List.mem_filterMap.mp (List.mem_of_mem_filter he)
    exact (Xml.read_joined hread).children hpart he
  refine ⟨root, hread, ?_, fun r hr => ?_⟩
  · refine ((List.forall₂_and_left _ _).mpr ⟨hjoined, hmirrors⟩).imp fun e i hi => ?_
    obtain ⟨he, hi⟩ := hi
    rw [hi.description, planText_eq hi]
    exact ⟨isFront_of_joined he "description", isFront_of_joined he "plan"⟩
  · rw [legacyDocument_of_read hread, legacyOfTree_of_root hroot] at hr
    obtain ⟨-, e, he, hsilent, hr⟩ := legacyItems_notes 0 root.elements r hr
    exact ⟨e, he, (Bool.or_eq_false_iff.mp hsilent).1, hr⟩

/-- A document with a plan that has an instruction in it, and a comment in front of that. -/
def instructedText : String :=
  "<catalog><entity id='a'><plan>x<!-- c -->y<?p?>z</plan></entity></catalog>"

/-- What stands in front of the instruction is kept, over the comment. -/
theorem legacy_texts_of_instructedText : ∃ d,
    (legacyDocument instructedText none).1 = .ok d ∧ d.items.map planText = ["xy"] ∧
    ∃ root, Xml.read instructedText = some root ∧
      List.Forall₂ (fun e i => IsFront e "description" (i.description.getD "") ∧
        IsFront e "plan" (planText i)) (root.elements.filter isItem) d.items ∧
      ∀ r ∈ (legacyDocument instructedText none).2,
        ∃ e ∈ root.elements, isItem e = false ∧ r = ignoredNote e none := by
  have hplans : (legacyDocument instructedText none).1.toOption.map (·.items.map planText) =
      some ["xy"] := by decide +kernel
  cases h : (legacyDocument instructedText none).1 with
  | error fault =>
    rw [h] at hplans
    cases hplans
  | ok d =>
    rw [h] at hplans
    exact ⟨d, rfl, Option.some.inj hplans, legacy_texts_whole_iff h⟩

/-- What stands behind it is cut off, and there is no note. -/
theorem legacy_texts_cut_off :
    (Xml.read instructedText).map
      (fun root => (root.elements.filter isItem).map (wholeText · "plan")) = some ["xyz"] ∧
    (legacyDocument instructedText none).1.toOption.map (·.items.map planText) = some ["xy"] ∧
    (legacyDocument instructedText none).2 = [] := by
  decide +kernel

end ItemCatalog.Document
