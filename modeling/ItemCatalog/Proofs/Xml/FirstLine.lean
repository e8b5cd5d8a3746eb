import ItemCatalog.Proofs.Text.Misreading
import ItemCatalog.Xml.Read
import Mathlib.Data.List.TakeWhile
import Mathlib.Tactic.SplitIfs

/-! # The first line: written, and read back

A first line sets the version, and it may set the character set and whether the text stands alone
(`Header`). Each setting is a word and a value in quotes, with separators around them (`Setting`).
A line that is written in front of any characters is read back, whatever line ends are in it
(`firstLine_write`), and a line that declares a character set is read only where one is written
(`exists_header`). -/

namespace ItemCatalog.Xml

open Text

/-! ### Separators and line ends -/

theorem after_append (lead cs : List Char) : after lead (lead ++ cs) = some cs := by
  induction lead with
  | nil => rw [List.nil_append, after]
  | cons c lead ih => rw [List.cons_append, after, if_pos rfl, ih]

theorem after_eq_some_iff {lead cs rest : List Char} :
    after lead cs = some rest ↔ cs = lead ++ rest := by
  constructor
  · intro h
    induction lead generalizing cs with
    | nil =>
      rw [after] at h
      exact Option.some.inj h
    | cons l lead ih =>
      cases cs with
      | nil => cases h
      | cons c cs =>
        rw [after] at h
        split_ifs at h with hc
        rw [hc, ih h, List.cons_append]
  · rintro rfl
    exact after_append lead rest

theorem unifyLines_cons {c : Char} (hc : c ≠ '\r') (cs : List Char) :
    unifyLines (c :: cs) = c :: unifyLines cs := by
  rw [unifyLines]
  · exact fun _ h => absurd h hc
  · exact hc

theorem unifyLines_append {xs : List Char} (hxs : '\r' ∉ xs) (cs : List Char) :
    unifyLines (xs ++ cs) = xs ++ unifyLines cs := by
  induction xs with
  | nil => rfl
  | cons x xs ih =>
    obtain ⟨hx, hxs⟩ := not_or.mp (mt List.mem_cons.mpr hxs)
    rw [List.cons_append, unifyLines_cons (Ne.symm hx), ih hxs, List.cons_append]

theorem of_unifyLines_cons {cs u : List Char} {x : Char} (h : unifyLines cs = x :: u)
    (hx : x ≠ '\n') : ∃ rest, cs = x :: rest ∧ unifyLines rest = u := by
  revert h
  fun_cases unifyLines cs <;> intro h <;> cases h
  · exact absurd rfl hx
  · exact absurd rfl hx
  · exact ⟨_, rfl, rfl⟩

theorem of_unifyLines_append {cs w u : List Char} (h : unifyLines cs = w ++ u)
    (hw : '\n' ∉ w) : ∃ rest, cs = w ++ rest ∧ unifyLines rest = u := by
  induction w generalizing cs with
  | nil => exact ⟨cs, rfl, h⟩
  | cons x w ih =>
    obtain ⟨hx, hw⟩ := not_or.mp (mt List.mem_cons.mpr hw)
    obtain ⟨more, rfl, hmore⟩ := of_unifyLines_cons h (Ne.symm hx)
    obtain ⟨rest, rfl, hrest⟩ := ih hmore hw
    exact ⟨rest, rfl, hrest⟩

theorem skipSpace_cons {c : Char} (hc : isSpace c = false) (cs : List Char) :
    skipSpace (c :: cs) = c :: cs :=
  List.dropWhile_cons_of_neg (Bool.eq_false_iff.mp hc)

theorem skipSpace_unifyLines (cs : List Char) :
    skipSpace (unifyLines cs) = unifyLines (skipSpace cs) := by
  fun_induction unifyLines cs with
  | case1 cs ih => exact ih
  | case2 cs _ ih => exact ih
  | case3 c cs _ hc ih =>
    cases hspace : isSpace c with
    | true =>
      rw [skipSpace, skipSpace, List.dropWhile_cons_of_pos hspace,
        List.dropWhile_cons_of_pos hspace]
      exact ih
    | false => rw [skipSpace_cons hspace, skipSpace_cons hspace, unifyLines_cons hc]
  | case4 => rfl

theorem ne_of_not_isSpace {c : Char} (hc : isSpace c = false) : c ≠ '\r' := by
  rintro rfl
  cases hc

theorem any_head?_unifyLines (cs : List Char) :
    (unifyLines cs).head?.any isSpace = cs.head?.any isSpace := by
  fun_cases unifyLines cs <;> rfl

/-- A run of separators. -/
abbrev Spaces := { cs : List Char // ∀ c ∈ cs, isSpace c = true }

theorem any_head?_spaces {spaces : Spaces} (hne : spaces.1 ≠ []) (cs : List Char) :
    (unifyLines (spaces.1 ++ cs)).head?.any isSpace = true := by
  obtain ⟨spaces, hspaces⟩ := spaces
  rw [any_head?_unifyLines]
  cases spaces with
  | nil => exact absurd rfl hne
  | cons x spaces => exact hspaces x List.mem_cons_self

/-- Separators are skipped, whatever line ends are among them. -/
theorem skipSpace_spaces (spaces : Spaces) {c : Char} (hc : isSpace c = false) (cs : List Char) :
    skipSpace (unifyLines (spaces.1 ++ c :: cs)) = unifyLines (c :: cs) := by
  rw [skipSpace_unifyLines, skipSpace, List.dropWhile_append_of_pos spaces.2]
  exact congrArg unifyLines (skipSpace_cons hc cs)

theorem someSpace_spaces {spaces : Spaces} (hne : spaces.1 ≠ []) {c : Char}
    (hc : isSpace c = false) (cs : List Char) :
    someSpace (unifyLines (spaces.1 ++ c :: cs)) = some (unifyLines (c :: cs)) := by
  rw [someSpace, if_pos (any_head?_spaces hne _), skipSpace_spaces _ hc]

theorem exists_spaces (cs : List Char) : ∃ (spaces : Spaces) (rest : List Char),
    cs = spaces.1 ++ rest ∧ skipSpace (unifyLines cs) = unifyLines rest ∧
      (cs.head?.any isSpace = true → spaces.1 ≠ []) := by
  refine ⟨⟨cs.takeWhile isSpace, fun _ hc => List.mem_takeWhile_imp hc⟩, skipSpace cs,
    List.takeWhile_append_dropWhile.symm, skipSpace_unifyLines cs, fun hhead => ?_⟩
  cases cs with
  | nil => cases hhead
  | cons c cs =>
    have hc : isSpace c = true := hhead
    simp only [List.takeWhile_cons_of_pos hc]
    exact List.cons_ne_nil _ _

theorem exists_spaces_of_someSpace {cs u : List Char} (h : someSpace (unifyLines cs) = some u) :
    ∃ (spaces : Spaces) (rest : List Char), cs = spaces.1 ++ rest ∧ spaces.1 ≠ [] ∧
      unifyLines rest = u := by
  rw [someSpace, any_head?_unifyLines] at h
  split_ifs at h with hhead
  obtain ⟨spaces, rest, hcs, hrest, hne⟩ := exists_spaces cs
  exact ⟨spaces, rest, hcs, hne hhead, hrest.symm.trans (Option.some.inj h)⟩

/-! ### Settings -/

/-- All characters are those of ASCII that are no control. -/
def IsPrintable (cs : List Char) : Prop :=
  ∀ c ∈ cs, 0x20 ≤ c.toNat ∧ c.toNat < 0x80

instance (cs : List Char) : Decidable (IsPrintable cs) :=
  List.decidableBAll (fun c : Char => 0x20 ≤ c.toNat ∧ c.toNat < 0x80) cs

/-- **A setting:** a value in quotes, with the separators in front of its word and around the sign
between the word and the value. -/
structure Setting where
  before : Spaces
  before_ne : before.1 ≠ []
  left : Spaces
  right : Spaces
  quote : Char
  value : List Char
  quote_eq : quote = '"' ∨ quote = '\''
  quote_notMem : quote ∉ value
  value_printable : IsPrintable value

/-- The characters of a setting of a word, in front of others. -/
def Setting.write (s : Setting) (word : String) (cs : List Char) : List Char :=
  s.before.1 ++ (word.toList ++
    (s.left.1 ++ '=' :: (s.right.1 ++ s.quote :: (s.value ++ s.quote :: cs))))

theorem Setting.return_notMem (s : Setting) : '\r' ∉ s.value :=
  fun h => absurd (s.value_printable _ h).1 (by decide)

theorem Setting.quote_not_isSpace (s : Setting) : isSpace s.quote = false := by
  rcases s.quote_eq with h | h <;> rw [h] <;> rfl

theorem upTo_quote {q : Char} {v : List Char} (h : q ∉ v) (cs : List Char) :
    upTo [q] (v ++ q :: cs) = some (v, cs) := by
  induction v with
  | nil => simp [upTo, after]
  | cons c v ih =>
    obtain ⟨hc, hv⟩ := not_or.mp (mt List.mem_cons.mpr h)
    rw [List.cons_append, upTo, after, if_neg hc, ih hv]
    rfl

theorem upTo_eq_some {q : Char} {u v r : List Char} (h : upTo [q] u = some (v, r)) :
    q ∉ v ∧ u = v ++ q :: r := by
  induction u generalizing v with
  | nil => cases h
  | cons c u ih =>
    rw [upTo, after] at h
    split_ifs at h with hc
    · cases h
      exact ⟨List.not_mem_nil, by rw [hc]; rfl⟩
    · obtain ⟨⟨w, r'⟩, hw, h⟩ := Option.map_eq_some_iff.mp h
      cases h
      obtain ⟨hnot, rfl⟩ := ih hw
      exact ⟨mt List.mem_cons.mp (not_or.mpr ⟨hc, hnot⟩), rfl⟩

theorem quotedText_quote {q : Char} (hq : q = '"' ∨ q = '\'') {v : List Char} (h : q ∉ v)
    (cs : List Char) : quotedText (q :: (v ++ q :: cs)) = some (v, cs) := by
  rcases hq with rfl | rfl <;> exact upTo_quote h cs

theorem quotedText_eq_some {u v r : List Char} (h : quotedText u = some (v, r)) :
    ∃ q, (q = '"' ∨ q = '\'') ∧ q ∉ v ∧ u = q :: (v ++ q :: r) := by
  unfold quotedText at h
  split at h
  · obtain ⟨hv, rfl⟩ := upTo_eq_some h
    exact ⟨_, .inl rfl, hv, rfl⟩
  · obtain ⟨hv, rfl⟩ := upTo_eq_some h
    exact ⟨_, .inr rfl, hv, rfl⟩
  · cases h

/-- **A setting is read back.** -/
theorem firstLineSetting_write {word : String} {c : Char} {more : List Char}
    (hword : word.toList = c :: more) (hc : isSpace c = false) (hreturn : '\r' ∉ word.toList)
    (s : Setting) (cs : List Char) :
    firstLineSetting word (unifyLines (s.write word cs)) = some (s.value, unifyLines cs) := by
  have hquote := s.quote_not_isSpace
  have hbefore := someSpace_spaces s.before_ne hc
    (more ++ (s.left.1 ++ '=' :: (s.right.1 ++ s.quote :: (s.value ++ s.quote :: cs))))
  rw [← List.cons_append, ← hword, unifyLines_append hreturn] at hbefore
  rw [firstLineSetting, Setting.write, hbefore, Option.bind_eq_bind, Option.bind_some, afterWord,
    after_append, Option.bind_some, skipSpace_spaces s.left (c := '=') rfl,
    unifyLines_cons (by decide), after, if_pos rfl, after, Option.bind_some,
    skipSpace_spaces s.right hquote, unifyLines_cons (ne_of_not_isSpace hquote),
    unifyLines_append s.return_notMem, unifyLines_cons (ne_of_not_isSpace hquote)]
  exact quotedText_quote s.quote_eq s.quote_notMem _

/-- Where something else stands, the setting is not read. -/
theorem firstLineSetting_eq_none {word : String} {c : Char} {more : List Char}
    (hword : word.toList = c :: more) (spaces : Spaces) {x : Char} (hx : isSpace x = false)
    (hne : c ≠ x) (cs : List Char) :
    firstLineSetting word (unifyLines (spaces.1 ++ x :: cs)) = none := by
  rw [firstLineSetting]
  by_cases hempty : spaces.1 = []
  · have hnone : someSpace (unifyLines (x :: cs)) = none := by
      rw [someSpace, if_neg]
      rw [any_head?_unifyLines]
      exact Bool.eq_false_iff.mp hx
    rw [hempty, List.nil_append, hnone]
    rfl
  · rw [someSpace_spaces hempty hx cs, unifyLines_cons (ne_of_not_isSpace hx),
      Option.bind_eq_bind, Option.bind_some, afterWord, hword, after, if_neg hne]
    rfl

/-- The characters of a setting that may be missing. -/
def writeOptional (s : Option Setting) (word : String) (cs : List Char) : List Char :=
  match s with
  | some s => s.write word cs
  | none => cs

/-- **A setting that is read is written there,** if its value is printable. -/
theorem exists_setting {word : String} (hword : '\n' ∉ word.toList) {cs v r : List Char}
    (h : firstLineSetting word (unifyLines cs) = some (v, r))
    (hv : IsPrintable v) :
    ∃ (s : Setting) (rest : List Char), cs = s.write word rest ∧ s.value = v ∧
      unifyLines rest = r := by
  obtain ⟨u, hbefore, h⟩ := Option.bind_eq_some_iff.mp h
  obtain ⟨before, cs, rfl, hne, rfl⟩ := exists_spaces_of_someSpace hbefore
  obtain ⟨u, hafter, h⟩ := Option.bind_eq_some_iff.mp h
  obtain ⟨cs, rfl, rfl⟩ := of_unifyLines_append (after_eq_some_iff.mp hafter) hword
  obtain ⟨left, cs, rfl, hskip, -⟩ := exists_spaces cs
  rw [hskip] at h
  obtain ⟨u, hsign, h⟩ := Option.bind_eq_some_iff.mp h
  obtain ⟨cs, rfl, rfl⟩ := of_unifyLines_append (after_eq_some_iff.mp hsign) (by decide)
  obtain ⟨right, cs, rfl, hskip, -⟩ := exists_spaces cs
  rw [hskip] at h
  obtain ⟨q, hq, hnot, hquoted⟩ := quotedText_eq_some h
  have hline : '\n' ∉ v := fun hmem => absurd (hv _ hmem).1 (by decide)
  have hqline : q ≠ '\n' := by rcases hq with rfl | rfl <;> decide
  obtain ⟨cs, rfl, hvalue⟩ := of_unifyLines_cons hquoted hqline
  obtain ⟨cs, rfl, hend⟩ := of_unifyLines_append hvalue hline
  obtain ⟨cs, rfl, rfl⟩ := of_unifyLines_cons hend hqline
  exact ⟨⟨before, hne, left, right, q, v, hq, hnot, hv⟩, cs, rfl, rfl, rfl⟩

theorem exists_writeOptional {word : String} (hword : '\n' ∉ word.toList) {cs r : List Char}
    {v : Option (List Char)} (h : optionalSetting word (unifyLines cs) = (v, r))
    (hv : ∀ w ∈ v, IsPrintable w) :
    ∃ (s : Option Setting) (rest : List Char), cs = writeOptional s word rest ∧
      s.map Setting.value = v ∧ unifyLines rest = r := by
  rw [optionalSetting] at h
  split at h
  · rename_i hread
    cases h
    obtain ⟨s, rest, hcs, hvalue, hrest⟩ := exists_setting hword hread (hv _ rfl)
    exact ⟨some s, rest, hcs, congrArg some hvalue, hrest⟩
  · cases h
    exact ⟨none, cs, rfl, rfl, rfl⟩

/-! ### Characters -/

theorem isAscii_spaces (spaces : Spaces) : IsAscii spaces.1 := by
  intro c hc
  have hspace := spaces.2 c hc
  simp only [isSpace, Bool.or_eq_true, beq_iff_eq] at hspace
  rcases hspace with ((rfl | rfl) | rfl) | rfl <;> decide

theorem Setting.isAscii_write (s : Setting) {word : String} (hword : IsAscii word.toList)
    {cs : List Char} (hcs : IsAscii cs) : IsAscii (s.write word cs) := by
  have hquote : s.quote.toNat < 0x80 := by rcases s.quote_eq with h | h <;> rw [h] <;> decide
  intro c hc
  simp only [Setting.write, List.mem_append, List.mem_cons] at hc
  rcases hc with hc | hc | hc | rfl | hc | rfl | hc | rfl | hc
  · exact isAscii_spaces s.before c hc
  · exact hword c hc
  · exact isAscii_spaces s.left c hc
  · decide
  · exact isAscii_spaces s.right c hc
  · exact hquote
  · exact (s.value_printable c hc).2
  · exact hquote
  · exact hcs c hc

theorem isAscii_writeOptional (s : Option Setting) {word : String} (hword : IsAscii word.toList)
    {cs : List Char} (hcs : IsAscii cs) : IsAscii (writeOptional s word cs) := by
  cases s with
  | some s => exact s.isAscii_write hword hcs
  | none => exact hcs

theorem writeOptional_append (s : Option Setting) (word : String) (xs cs : List Char) :
    writeOptional s word (xs ++ cs) = writeOptional s word xs ++ cs := by
  cases s <;> simp [writeOptional, Setting.write]

/-- Characters between two others that are printable are printable. -/
theorem printable_of_between (first last : Char) {c : Char} (hfirst : 0x20 ≤ first.toNat)
    (hlast : last.toNat < 0x80) (hc : c.val ≥ first.val ∧ c.val ≤ last.val) :
    0x20 ≤ c.toNat ∧ c.toNat < 0x80 := by
  have hlow : first.toNat ≤ c.toNat := UInt32.le_iff_toNat_le.mp hc.1
  have hhigh : c.toNat ≤ last.toNat := UInt32.le_iff_toNat_le.mp hc.2
  exact ⟨by omega, by omega⟩

theorem printable_of_isDigit {c : Char} (h : c.isDigit = true) :
    0x20 ≤ c.toNat ∧ c.toNat < 0x80 :=
  printable_of_between '0' '9' (by decide) (by decide)
    (of_decide_eq_true ((Bool.decide_and _ _).trans h))

theorem printable_of_isAlpha {c : Char} (h : c.isAlpha = true) :
    0x20 ≤ c.toNat ∧ c.toNat < 0x80 := by
  rcases Bool.or_eq_true _ _ |>.mp h with hupper | hlower
  · exact printable_of_between 'A' 'Z' (by decide) (by decide)
      (of_decide_eq_true hupper)
  · exact printable_of_between 'a' 'z' (by decide) (by decide)
      (of_decide_eq_true ((Bool.decide_and _ _).trans hlower))

theorem printable_of_isVersion {v : List Char} (h : isVersion v = true) : IsPrintable v := by
  unfold isVersion at h
  split at h
  · rename_i ds
    refine List.forall_mem_cons.mpr ⟨by decide, List.forall_mem_cons.mpr ⟨by decide, ?_⟩⟩
    exact fun c hc => printable_of_isDigit (List.all_eq_true.mp h c hc)
  · cases h

theorem printable_of_isCharsetLabel {v : List Char} (h : isCharsetLabel v = true) :
    IsPrintable v := by
  cases v with
  | nil => exact nofun
  | cons c v =>
    rw [isCharsetLabel, Bool.and_eq_true, List.all_eq_true] at h
    refine List.forall_mem_cons.mpr ⟨printable_of_isAlpha h.1, fun x hx => ?_⟩
    have hlabel := h.2 x hx
    simp only [Char.isAlphanum, Bool.or_eq_true, beq_iff_eq] at hlabel
    rcases hlabel with (((hx | hx) | rfl) | rfl) | rfl
    · exact printable_of_isAlpha hx
    · exact printable_of_isDigit hx
    all_goals decide

/-! ### Lines -/

/-- **A first line:** what it sets, in its order, and the separators in front of its end. -/
structure Header where
  version : Setting
  charset : Option Setting
  alone : Option Setting
  closing : Spaces
  version_ok : isVersion version.value = true
  charset_ok : ∀ s ∈ charset, isCharsetLabel s.value = true
  alone_ok : ∀ s ∈ alone, s.value = "yes".toList ∨ s.value = "no".toList

namespace Header

/-- The line without what it says about the character set. -/
def withoutCharset (h : Header) : Header :=
  { h with charset := none, charset_ok := nofun }

/-- The word for whether the text stands alone. -/
def aloneWord (h : Header) : List Char :=
  (h.alone.map Setting.value).getD "no".toList

/-- Whether the text stands alone. -/
def isAlone (h : Header) : Bool :=
  h.aloneWord == "yes".toList

/-- The characters from the end of a line on. -/
def writeEnd (h : Header) (cs : List Char) : List Char :=
  h.closing.1 ++ '?' :: '>' :: cs

/-- **The characters of a line,** in front of others. -/
def write (h : Header) (cs : List Char) : List Char :=
  "<?xml".toList ++ h.version.write "version" (writeOptional h.charset "encoding"
    (writeOptional h.alone "standalone" (h.writeEnd cs)))

section Reading

variable (h : Header) (cs : List Char)

theorem afterWord_writeEnd :
    afterWord "?>" (skipSpace (unifyLines (h.writeEnd cs))) = some (unifyLines cs) := by
  rw [writeEnd, skipSpace_spaces h.closing rfl, unifyLines_cons (by decide),
    unifyLines_cons (by decide)]
  exact after_append "?>".toList _

theorem standalone_write :
    optionalSetting "standalone" (unifyLines (writeOptional h.alone "standalone" (h.writeEnd cs))) =
      (h.alone.map Setting.value, unifyLines (h.writeEnd cs)) := by
  rw [optionalSetting]
  cases h.alone with
  | some s =>
    rw [writeOptional, firstLineSetting_write (c := 's') rfl rfl (by decide)]
    rfl
  | none =>
    rw [writeOptional, writeEnd,
      firstLineSetting_eq_none (c := 's') rfl h.closing rfl (by decide)]
    rfl

theorem encoding_write : optionalSetting "encoding" (unifyLines (writeOptional h.charset "encoding"
      (writeOptional h.alone "standalone" (h.writeEnd cs)))) =
    (h.charset.map Setting.value,
      unifyLines (writeOptional h.alone "standalone" (h.writeEnd cs))) := by
  rw [optionalSetting]
  cases h.charset with
  | some s =>
    rw [writeOptional, firstLineSetting_write (c := 'e') rfl rfl (by decide)]
    rfl
  | none =>
    have hnone : firstLineSetting "encoding"
        (unifyLines (writeOptional h.alone "standalone" (h.writeEnd cs))) = none := by
      cases h.alone with
      | some s => exact firstLineSetting_eq_none (c := 'e') rfl s.before rfl (by decide) _
      | none => exact firstLineSetting_eq_none (c := 'e') rfl h.closing rfl (by decide) _
    rw [writeOptional, hnone]
    rfl

theorem aloneWord_ok : (h.aloneWord == "yes".toList || h.aloneWord == "no".toList) = true := by
  rw [aloneWord]
  cases halone : h.alone with
  | some s => rcases h.alone_ok s halone with hs | hs <;> rw [Option.map_some, hs] <;> rfl
  | none => rfl

/-- **A line is read back.** -/
theorem firstLine_write : firstLine (unifyLines (h.write cs)) =
    some (⟨h.charset.map Setting.value, h.isAlone⟩, unifyLines cs) := by
  have hmark (cs : List Char) : afterWord "<?xml" (unifyLines ("<?xml".toList ++ cs)) =
      some (unifyLines cs) := by
    rw [unifyLines_append (by decide)]
    exact after_append "<?xml".toList _
  have hspace (cs : List Char) : ((unifyLines (h.version.write "version" cs)).head?.any
      fun c => isSpace c || c == '?') = true := by
    have hbefore := any_head?_spaces h.version.before_ne
    refine (Option.any_eq_true _ _).mpr ?_
    obtain ⟨c, hc, hspace⟩ := (Option.any_eq_true _ _).mp (hbefore _)
    exact ⟨c, hc, by rw [hspace, Bool.true_or]⟩
  have hcharset : (h.charset.map Setting.value).all isCharsetLabel = true := by
    cases hc : h.charset with
    | some s => exact h.charset_ok s hc
    | none => rfl
  rw [firstLine, write, hmark]
  simp only
  rw [if_neg (by rw [hspace]; decide), firstLineSetting_write (c := 'v') rfl rfl (by decide),
    Option.bind_eq_bind, Option.bind_some]
  simp only
  rw [encoding_write]
  simp only
  rw [standalone_write]
  simp only
  rw [afterWord_writeEnd, Option.bind_eq_bind, Option.bind_some, if_pos]
  · rfl
  · rw [h.version_ok, hcharset]
    exact h.aloneWord_ok

end Reading

/-- A line is ASCII, and it does not depend on what comes after it. -/
theorem write_eq_append (h : Header) (cs : List Char) :
    IsAscii (h.write []) ∧ h.write cs = h.write [] ++ cs := by
  have hmark : IsAscii "?>".toList := by decide
  have hstart : IsAscii "<?xml".toList := by decide
  have hend : IsAscii (h.writeEnd []) := by
    intro c hc
    rcases List.mem_append.mp hc with hc | hc
    · exact isAscii_spaces h.closing c hc
    · exact hmark c hc
  have hversion (cs : List Char) : h.version.write "version" cs =
      writeOptional (some h.version) "version" cs := rfl
  constructor
  · intro c hc
    rw [write, hversion] at hc
    rcases List.mem_append.mp hc with hc | hc
    · exact hstart c hc
    · refine isAscii_writeOptional _ ?_ (isAscii_writeOptional _ ?_
        (isAscii_writeOptional _ ?_ hend)) c hc <;> decide
  · have hrest : h.writeEnd cs = h.writeEnd [] ++ cs := by simp [writeEnd]
    rw [write, write, hversion, hversion, hrest, writeOptional_append, writeOptional_append,
      writeOptional_append, List.append_assoc]

end Header

/-- **Every line that declares a character set** is one that is written. -/
theorem exists_header {cs u : List Char} {first : FirstLine}
    (h : firstLine (unifyLines cs) = some (first, u)) (hcharset : first.charset ≠ none) :
    ∃ (line : Header) (rest : List Char), cs = line.write rest ∧
      line.charset.map Setting.value = first.charset ∧ unifyLines rest = u := by
  unfold firstLine at h
  split at h
  · cases h
    exact absurd rfl hcharset
  · rename_i hmark
    split_ifs at h with hnone
    · cases h
      exact absurd rfl hcharset
    obtain ⟨cs, rfl, rfl⟩ := of_unifyLines_append (after_eq_some_iff.mp hmark) (by decide)
    obtain ⟨⟨v, r⟩, hversion, h⟩ := Option.bind_eq_some_iff.mp h
    rcases hencoding : optionalSetting "encoding" r with ⟨label, r₁⟩
    rcases hstandalone : optionalSetting "standalone" r₁ with ⟨word, r₂⟩
    simp only [hencoding, hstandalone] at h
    obtain ⟨r₃, hend, h⟩ := Option.bind_eq_some_iff.mp h
    split_ifs at h with hok
    cases h
    simp only [Bool.and_eq_true, Bool.or_eq_true, beq_iff_eq] at hok
    obtain ⟨⟨hv, hlabel⟩, hword⟩ := hok
    -- The parts of the line, one after the other.
    obtain ⟨version, cs, rfl, rfl, rfl⟩ :=
      exists_setting (by decide) hversion (printable_of_isVersion hv)
    obtain ⟨charset, cs, rfl, rfl, rfl⟩ := exists_writeOptional (by decide) hencoding
      fun w hw => printable_of_isCharsetLabel (Option.all_eq_true _ _ |>.mp hlabel w hw)
    have hyesNo : ∀ w ∈ word, w = "yes".toList ∨ w = "no".toList := by
      rintro w rfl
      exact hword
    obtain ⟨alone, cs, rfl, rfl, rfl⟩ := exists_writeOptional (by decide) hstandalone
      fun w hw => by rcases hyesNo w hw with rfl | rfl <;> decide
    obtain ⟨closing, cs, rfl, hskip, -⟩ := exists_spaces cs
    rw [hskip] at hend
    obtain ⟨cs, rfl, rfl⟩ := of_unifyLines_append (after_eq_some_iff.mp hend) (by decide)
    refine ⟨⟨version, charset, alone, closing, hv, ?_, ?_⟩, cs, rfl, rfl, rfl⟩
    · rintro s rfl
      exact hlabel
    · rintro s rfl
      exact hyesNo _ rfl

end ItemCatalog.Xml
