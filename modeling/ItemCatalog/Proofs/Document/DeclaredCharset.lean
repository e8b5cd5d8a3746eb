import ItemCatalog.Document.Legacy
import ItemCatalog.Proofs.Text.Misreading
import ItemCatalog.Proofs.Xml.FirstLine

/-! # Declared character sets: what a legacy text is taken for

A legacy text is text already, and yet the character set that its first line declares is obeyed: the
text is taken for its bytes in the variable-length form, read in that set. So it comes to the
document of the misread text without the declaration, which is the document of the text itself if
the set is the variable-length form or the text is ASCII; otherwise something is misread. A byte
order mark in front makes the declaration idle (`legacyDocument_declared`). -/

namespace ItemCatalog.Xml

open Text

/-! ### Character sets -/

theorem ofLabel?_eq_markedUtf8 {label : String} (h : Charset.ofLabel? label = some (.utf8 true)) :
    Charset.plainLabel label = "utf-8-sig" := by
  have hlabelled : ∀ e ∈ Charset.labelled, e.2 = .utf8 true → e.1 = ["utf-8-sig"] := by decide
  -- The tables are not for unfolding.
  delta Charset.ofLabel? at h
  dsimp only at h
  split at h
  · rename_i e he
    have hkey := List.find?_some he
    rw [hlabelled e (List.mem_of_find?_eq_some he) (Option.some.inj h)] at hkey
    simpa using hkey
  · obtain ⟨_, -, h⟩ := Option.map_eq_some_iff.mp h
    cases h

/-- A character set that can be declared is the variable-length form, or it reads byte by byte. -/
theorem declaredCharset?_cases {label : String} {c : Charset}
    (h : declaredCharset? label = some c) :
    c = .utf8 false ∨ (∀ marked, c ≠ .utf8 marked) ∧ ∃ rule, c.ReadsBytes rule := by
  rw [declaredCharset?] at h
  split_ifs at h with hnickname
  obtain ⟨charset, hlabel, h⟩ := Option.bind_eq_some_iff.mp h
  cases charset with
  | utf8 marked =>
    cases h
    cases marked with
    | false => exact .inl rfl
    | true =>
      rw [ofLabel?_eq_markedUtf8 hlabel] at hnickname
      exact absurd rfl hnickname
  | ascii =>
    cases h
    exact .inr ⟨nofun, _, Charset.readsBytes_ascii⟩
  | latin1 =>
    cases h
    exact .inr ⟨nofun, _, Charset.readsBytes_latin1⟩
  | table high =>
    cases h
    exact .inr ⟨nofun, _, Charset.readsBytes_table high⟩
  | utf16 | markedUtf16 | utf32 | markedUtf32 => cases h

/-- Characters of ASCII are kept in a character set that can be declared. -/
theorem misread_append {label : String} {c : Charset} (h : declaredCharset? label = some c)
    {xs : List Char} (hxs : IsAscii xs) (cs : List Char) :
    c.misread (xs ++ cs) = (c.misread cs).map (xs ++ ·) := by
  rcases declaredCharset?_cases h with rfl | ⟨-, rule, hc⟩
  · rw [Charset.misread_utf8, Charset.misread_utf8]
    rfl
  · exact hc.misread_append hxs cs

theorem misread_eq_self_iff {label : String} {c : Charset} (h : declaredCharset? label = some c)
    {cs : List Char} : c.misread cs = some cs ↔ c = .utf8 false ∨ IsAscii cs := by
  by_cases hutf8 : c = .utf8 false
  · rw [hutf8]
    exact iff_of_true (Charset.misread_utf8 cs) (.inl rfl)
  · obtain ⟨-, rule, hc⟩ := (declaredCharset?_cases h).resolve_left hutf8
    rw [hc.misread_eq_self_iff, or_iff_right hutf8]

/-! ### Texts -/

section Reading

variable (h : Header) (cs : List Char)

/-- A text with a byte order mark keeps its characters. -/
theorem decoded_mark : decoded ('\ufeff' :: h.write cs) =
    some (⟨h.charset.map Setting.value, h.isAlone⟩, unifyLines cs) := by
  rw [decoded, h.firstLine_write]

theorem firstLine_misread {s : Setting} (hs : h.charset = some s) {c : Charset}
    (hc : declaredCharset? (String.ofList s.value) = some c) :
    ((c.misread (h.write cs)).bind fun heard => firstLine (unifyLines heard)) =
      (c.misread cs).map fun heard =>
        (⟨some s.value, h.isAlone⟩, unifyLines heard) := by
  obtain ⟨hascii, hsplit⟩ := h.write_eq_append cs
  rw [hsplit, misread_append hc hascii, Option.bind_map]
  cases c.misread cs with
  | none => rfl
  | some heard =>
    simp only [Option.bind_some, Function.comp_apply]
    rw [← (h.write_eq_append heard).2, h.firstLine_write, hs]
    rfl

/-- **A text that declares a character set** is what it is misread as, after its first line. -/
theorem decoded_write {s : Setting} (hs : h.charset = some s) {c : Charset}
    (hc : declaredCharset? (String.ofList s.value) = some c) :
    decoded (h.write cs) = (c.misread cs).map fun heard =>
      (⟨some s.value, h.isAlone⟩, unifyLines heard) := by
  have hstart : h.write cs = '<' :: (h.write cs).tail := rfl
  rw [decoded.eq_2 _ (by rw [hstart]; exact nofun), h.firstLine_write, hs]
  simp only [Option.map_some, Option.bind_eq_bind, Option.bind_some, hc]
  rcases declaredCharset?_cases hc with rfl | ⟨hutf8, -⟩
  · rw [Charset.misread_utf8]
    rfl
  · rw [← firstLine_misread h cs hs hc]
    cases c with
    | utf8 marked => exact absurd rfl (hutf8 marked)
    | _ => rfl

/-- A text that declares none is what it says. -/
theorem decoded_write_of_none (hs : h.charset = none) :
    decoded (h.write cs) = some (⟨none, h.isAlone⟩, unifyLines cs) := by
  have hstart : h.write cs = '<' :: (h.write cs).tail := rfl
  rw [decoded.eq_2 _ (by rw [hstart]; exact nofun), h.firstLine_write, hs]
  rfl

/-- **The root of such a text** is that of the misread text without the declaration. -/
theorem read_write {s : Setting} (hs : h.charset = some s) {c : Charset}
    (hc : declaredCharset? (String.ofList s.value) = some c) :
    read (String.ofList (h.write cs)) = (c.misread cs).bind fun heard =>
      read (String.ofList (h.withoutCharset.write heard)) := by
  rw [read, String.toList_ofList, decoded_write h cs hs hc]
  cases c.misread cs with
  | none => rfl
  | some heard =>
    rw [Option.bind_some, read, String.toList_ofList, decoded_write_of_none h.withoutCharset _ rfl]
    -- Of the first line, only whether the text stands alone matters.
    rfl

theorem read_mark : read ("\ufeff" ++ String.ofList (h.write cs)) =
    read ("\ufeff" ++ String.ofList (h.withoutCharset.write cs)) := by
  have hmark (xs : List Char) : ("\ufeff" ++ String.ofList xs).toList = '\ufeff' :: xs := by
    rw [String.toList_append, String.toList_ofList (l := xs)]
    rfl
  rw [read, read, hmark, hmark, decoded_mark, decoded_mark]
  rfl

end Reading

end ItemCatalog.Xml

namespace ItemCatalog.Document

open Text Xml

theorem legacyDocument_congr {text text' : String} (h : Xml.read text = Xml.read text')
    (source : Option String) : legacyDocument text source = legacyDocument text' source := by
  rw [legacyDocument, legacyDocument, h]
  rfl

/-- **A text whose first line declares a character set** comes to the document of the same text
without the declaration, after its characters were misread in the set; there is no document if they
cannot be read in it. They are what they were if the set is the variable-length form or they are
ASCII, and only then. With a byte order mark in front the declaration makes no difference. -/
theorem legacyDocument_declared {text : String} {first : FirstLine} {after label : List Char}
    {c : Charset} (hfirst : firstLine (unifyLines text.toList) = some (first, after))
    (hlabel : first.charset = some label) (hc : declaredCharset? (String.ofList label) = some c)
    (source : Option String) :
    ∃ (h : Header) (cs : List Char), text = String.ofList (h.write cs) ∧
      h.charset.map Setting.value = some label ∧
      (∀ heard, c.misread cs = some heard → legacyDocument text source =
        legacyDocument (String.ofList (h.withoutCharset.write heard)) source) ∧
      (c.misread cs = none →
        ∃ reason cause, legacyDocument text source = (.error (.parse reason source cause), [])) ∧
      (c.misread cs = some cs ↔ c = .utf8 false ∨ IsAscii cs) ∧
      legacyDocument ("\ufeff" ++ text) source =
        legacyDocument ("\ufeff" ++ String.ofList (h.withoutCharset.write cs)) source := by
  obtain ⟨h, cs, htext, hcharset, -⟩ := exists_header hfirst (by rw [hlabel]; exact nofun)
  rw [hlabel] at hcharset
  obtain ⟨s, hs, rfl⟩ := Option.map_eq_some_iff.mp hcharset
  have hread : Xml.read text = (c.misread cs).bind fun heard =>
      Xml.read (String.ofList (h.withoutCharset.write heard)) := by
    rw [← read_write h cs hs hc, ← htext, String.ofList_toList]
  refine ⟨h, cs, ?_, hcharset, fun heard hheard => ?_, fun hnone => ?_, misread_eq_self_iff hc, ?_⟩
  · rw [← htext, String.ofList_toList]
  · rw [hheard] at hread
    exact legacyDocument_congr hread source
  · rw [hnone] at hread
    exact ⟨_, _, by rw [legacyDocument, hread]; rfl⟩
  · refine legacyDocument_congr ?_ source
    rw [← read_mark h cs, ← htext, String.ofList_toList]

/-- A document that declares Latin-1 and has a letter beyond ASCII. -/
def latinText : String :=
  "<?xml version='1.0' encoding='ISO-8859-1'?><catalog name='é'/>"

/-- The same document without the declaration. -/
def plainText : String :=
  "<?xml version='1.0'?><catalog name='é'/>"

/-- Latin-1 has a character for every byte, so the document is that of a misread text. -/
theorem legacyDocument_declared_of_latinText :
    firstLine (unifyLines latinText.toList) =
      some (⟨some "ISO-8859-1".toList, false⟩, "<catalog name='é'/>".toList) ∧
    declaredCharset? (String.ofList "ISO-8859-1".toList) = some .latin1 ∧
    ∃ (h : Header) (cs heard : List Char), latinText = String.ofList (h.write cs) ∧
      Charset.latin1.misread cs = some heard ∧
      legacyDocument latinText none =
        legacyDocument (String.ofList (h.withoutCharset.write heard)) none := by
  have hfirst : firstLine (unifyLines latinText.toList) =
      some (⟨some "ISO-8859-1".toList, false⟩, "<catalog name='é'/>".toList) := by
    decide +kernel
  have hc : declaredCharset? (String.ofList "ISO-8859-1".toList) = some .latin1 := by
    decide +kernel
  obtain ⟨h, cs, htext, -, hdocument, -⟩ := legacyDocument_declared hfirst rfl hc none
  exact ⟨hfirst, hc, h, cs, _, htext, rfl, hdocument _ rfl⟩

/-- The name is not the one that is written: each of the two bytes of its letter is taken for a
letter. -/
theorem legacyDocument_misreads_name :
    (legacyDocument latinText none).1.toOption.map LegacyDocument.name = some (some "Ã©") ∧
    (legacyDocument plainText none).1.toOption.map LegacyDocument.name = some (some "é") := by
  decide +kernel

end ItemCatalog.Document
