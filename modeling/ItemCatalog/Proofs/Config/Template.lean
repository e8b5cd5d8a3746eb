import ItemCatalog.Config.Placeholder
import ItemCatalog.Proofs.Log.Console
import Mathlib.Data.Bool.AllAny

/-! # Templates: texts that are put together from literals and placeholders

A template is a list of segments: literal texts without a dollar sign, placeholders in braces, with
or without a default, and placeholders without braces. `Segment.written` is a segment as it stands
in the text, `Segment.filled` what it stands for in an environment, and `Segment.notes` what is
noted about it. A template is `Legible` if no placeholder without braces runs into the text after
it.

* `expandChars_segment`: a written segment is read as what it is, whatever legible text comes after;
* `expandText_write`: filling the text of a template gives what its segments stand for. -/

namespace ItemCatalog.Config

/-! ### Segments -/

/-- A letter or an underscore. -/
def StartsName (c : Char) : Prop :=
  ('a' ≤ c ∧ c ≤ 'z') ∨ ('A' ≤ c ∧ c ≤ 'Z') ∨ c = '_'

/-- A letter, an underscore or a digit. -/
def ContinuesName (c : Char) : Prop :=
  StartsName c ∨ ('0' ≤ c ∧ c ≤ '9')

instance StartsName.decidable (c : Char) : Decidable (StartsName c) :=
  inferInstanceAs (Decidable (_ ∨ _))

instance ContinuesName.decidable (c : Char) : Decidable (ContinuesName c) :=
  inferInstanceAs (Decidable (_ ∨ _))

/-- A part of a template: a text without a dollar sign, a placeholder in braces, with what is
written for a default, if anything is, or one without braces, by the first character of its name and
the others. -/
inductive Segment where
  | literal (text : List Char) (plain : '$' ∉ text)
  | braced (name : List Char) (default : Option (List Char)) (named : name ≠ [])
      (nameClosed : ∀ c ∈ name, c ≠ '\x7d' ∧ c ≠ ':')
      (defaultClosed : ∀ d ∈ default, ∀ c ∈ d, c ≠ '\x7d' ∧ c ≠ '\n')
  | bare (first : Char) (others : List Char) (starts : StartsName first)
      (continues : ∀ c ∈ others, ContinuesName c)

/-- What is written after the name in braces. -/
def writtenDefault : Option (List Char) → List Char
  | none => []
  | some d => [':', '-'] ++ d

/-- What stands for a variable: its value, or else the default, or else the placeholder. -/
def standsFor (env : Environment) (name : List Char) (default : Option (List Char))
    (written : List Char) : List Char :=
  ((env.get? (String.ofList name)).map String.toList).getD (default.getD written)

/-- What is noted about a variable without a value and without a default. -/
def missingNotes (env : Environment) (name : List Char) (default : Option (List Char)) :
    List Log.Record :=
  if (env.get? (String.ofList name)).isSome || default.isSome then []
  else [unsetNote (String.ofList name)]

namespace Segment

/-- A segment as it stands in the text. -/
def written : Segment → List Char
  | .literal text _ => text
  | .braced name default _ _ _ => ['$', '\x7b'] ++ name ++ writtenDefault default ++ ['\x7d']
  | .bare first others _ _ => '$' :: first :: others

/-- What a segment stands for. -/
def filled (env : Environment) : Segment → List Char
  | .literal text _ => text
  | s@(.braced name default _ _ _) => standsFor env name default s.written
  | s@(.bare first others _ _) => standsFor env (first :: others) none s.written

/-- What is noted about a segment. -/
def notes (env : Environment) : Segment → List Log.Record
  | .literal _ _ => []
  | .braced name default _ _ _ => missingNotes env name default
  | .bare first others _ _ => missingNotes env (first :: others) none

/-- A text does not go on with the name of a placeholder without braces. -/
def EndsBefore (text : List Char) : Segment → Prop
  | .bare _ _ _ _ => ∀ c ∈ text.head?, ¬ ContinuesName c
  | _ => True

instance EndsBefore.decidable (text : List Char) : (s : Segment) → Decidable (s.EndsBefore text)
  | .literal _ _ => isTrue trivial
  | .braced _ _ _ _ _ => isTrue trivial
  | .bare _ _ _ _ => Option.decidableForallMem text.head?

end Segment

/-- The text of a template. -/
def writeAll (template : List Segment) : List Char :=
  template.flatMap Segment.written

/-- No placeholder without braces runs into the text after it. -/
def Legible : List Segment → Prop
  | [] => True
  | s :: rest => s.EndsBefore (writeAll rest) ∧ Legible rest

instance Legible.decidable : (template : List Segment) → Decidable (Legible template)
  | [] => isTrue trivial
  | s :: rest =>
    have := Legible.decidable rest
    inferInstanceAs (Decidable (s.EndsBefore (writeAll rest) ∧ Legible rest))

/-! ### Reading placeholders -/

section Reading

theorem isNameStart_iff (c : Char) : isNameStart c = true ↔ StartsName c := by
  have hupper : c.isUpper = decide ('A' ≤ c ∧ c ≤ 'Z') := rfl
  have hlower : c.isLower = (decide ('a' ≤ c) && decide (c ≤ 'z')) := rfl
  have halpha : c.isAlpha = (c.isUpper || c.isLower) := rfl
  simp [isNameStart, StartsName, halpha, hupper, hlower, or_assoc, or_left_comm]

theorem isNameChar_iff (c : Char) : isNameChar c = true ↔ ContinuesName c := by
  simp [isNameChar, ContinuesName, isNameStart_iff, Char.isDigit, Char.le_def]

/-- A run of a class of characters ends where the text goes on with none of the class. -/
theorem span_run {p : Char → Bool} {run : List Char} (hrun : ∀ c ∈ run, p c = true)
    (rest : List Char) (hrest : ∀ c ∈ rest.head?, p c = false) :
    (run ++ rest).takeWhile p = run ∧ (run ++ rest).dropWhile p = rest := by
  rw [List.takeWhile_append_of_pos hrun, List.dropWhile_append_of_pos hrun]
  cases rest with
  | nil => simp
  | cons c rest => simp [hrest c rfl]

theorem braced?_written {name : List Char} (named : name ≠ [])
    (nameClosed : ∀ c ∈ name, c ≠ '\x7d' ∧ c ≠ ':') {default : Option (List Char)}
    (defaultClosed : ∀ d ∈ default, ∀ c ∈ d, c ≠ '\x7d' ∧ c ≠ '\n') (rest : List Char) :
    braced? (name ++ writtenDefault default ++ ['\x7d'] ++ rest) =
      some ⟨name, default, ['$', '\x7b'] ++ name ++ writtenDefault default ++ ['\x7d']⟩ := by
  have hname : ∀ c ∈ name, isBracedChar c = true := fun c hc => by
    simpa [isBracedChar] using nameClosed c hc
  have hempty : name.isEmpty = false := by simpa using named
  cases default with
  | none =>
    obtain ⟨htake, hdrop⟩ := span_run hname ('\x7d' :: rest) (by simp [isBracedChar])
    have hsplit : name ++ writtenDefault none ++ ['\x7d'] ++ rest = name ++ '\x7d' :: rest := by
      simp [writtenDefault]
    rw [braced?, hsplit, htake, hdrop, hempty]
    simp [writtenDefault]
  | some d =>
    have hdefault : ∀ c ∈ d, isDefaultChar c = true := fun c hc => by
      simpa [isDefaultChar] using defaultClosed d rfl c hc
    obtain ⟨htake, hdrop⟩ := span_run hname
      (':' :: '-' :: (d ++ '\x7d' :: rest)) (by simp [isBracedChar])
    obtain ⟨htake', hdrop'⟩ := span_run hdefault ('\x7d' :: rest) (by simp [isDefaultChar])
    have hsplit : name ++ writtenDefault (some d) ++ ['\x7d'] ++ rest =
        name ++ ':' :: '-' :: (d ++ '\x7d' :: rest) := by
      simp [writtenDefault]
    rw [braced?, hsplit, htake, hdrop, hempty]
    simp [htake', hdrop', writtenDefault]

theorem bare?_written {first : Char} (starts : StartsName first) {others : List Char}
    (continues : ∀ c ∈ others, ContinuesName c) {rest : List Char}
    (hrest : ∀ c ∈ rest.head?, ¬ ContinuesName c) :
    bare? (first :: others ++ rest) = some ⟨first :: others, none, '$' :: first :: others⟩ := by
  have hothers : ∀ c ∈ others, isNameChar c = true := fun c hc =>
    (isNameChar_iff c).mpr (continues c hc)
  obtain ⟨htake, -⟩ := span_run hothers rest fun c hc =>
    Bool.eq_false_iff.mpr fun h => hrest c hc ((isNameChar_iff c).mp h)
  rw [List.cons_append, bare?, if_pos ((isNameStart_iff first).mpr starts), htake]

/-- A name without braces does not start with a brace. -/
theorem placeholder?_of_starts {first : Char} (starts : StartsName first) (cs : List Char) :
    placeholder? (first :: cs) = bare? (first :: cs) := by
  unfold placeholder?
  split
  · next h =>
    rw [(List.cons.inj h).1] at starts
    exact absurd starts (by decide)
  · rfl

end Reading

/-! ### Filling -/

section Filling

variable (env : Environment)

theorem fill_eq (name : List Char) (default : Option (List Char)) (written : List Char) :
    Placeholder.fill env ⟨name, default, written⟩ =
      (standsFor env name default written, missingNotes env name default) := by
  unfold Placeholder.fill standsFor missingNotes
  cases hvalue : env.get? (String.ofList name) <;> cases default <;> simp [hvalue]

/-- The characters of a placeholder are passed over. -/
theorem expandChars_skip (cs rest : List Char) :
    expandChars env cs.length (cs ++ rest) = expandChars env 0 rest := by
  induction cs with
  | nil => rfl
  | cons c cs ih =>
    rw [List.length_cons, List.cons_append, expandChars]
    exact ih

/-- A literal text stays, since no placeholder starts in it. -/
theorem expandChars_literal {text : List Char} (plain : '$' ∉ text) (rest : List Char) :
    expandChars env 0 (text ++ rest) =
      (text ++ (expandChars env 0 rest).1, (expandChars env 0 rest).2) := by
  induction text with
  | nil => rfl
  | cons c text ih =>
    rw [List.mem_cons, not_or] at plain
    rw [List.cons_append, expandChars, if_neg (Ne.symm plain.1), ih plain.2]
    rfl

/-- A placeholder is filled, and the text after it is gone on with. -/
theorem expandChars_placeholder (cs rest : List Char) {p : Placeholder}
    (hread : placeholder? (cs ++ rest) = some p) (hwritten : p.written = '$' :: cs) :
    expandChars env 0 ('$' :: cs ++ rest) =
      ((p.fill env).1 ++ (expandChars env 0 rest).1,
        (p.fill env).2 ++ (expandChars env 0 rest).2) := by
  have hskip : expandChars env (p.written.length - 1) (cs ++ rest) = expandChars env 0 rest := by
    rw [hwritten]
    exact expandChars_skip env cs rest
  rw [List.cons_append, expandChars, if_pos rfl, hread]
  simp only [hskip]

/-- **A written segment** is read as what it is, and the text after it is gone on with. -/
theorem expandChars_segment (s : Segment) {rest : List Char} (hrest : s.EndsBefore rest) :
    expandChars env 0 (s.written ++ rest) =
      (s.filled env ++ (expandChars env 0 rest).1, s.notes env ++ (expandChars env 0 rest).2) := by
  cases s with
  | literal text plain => exact expandChars_literal env plain rest
  | braced name default named nameClosed defaultClosed =>
    have hread := braced?_written named nameClosed defaultClosed rest
    have h := expandChars_placeholder env
      ('\x7b' :: (name ++ writtenDefault default ++ ['\x7d'])) rest hread (by simp)
    rw [fill_eq] at h
    simpa [Segment.written, Segment.filled, Segment.notes] using h
  | bare first others starts continues =>
    have hread := bare?_written starts continues hrest
    rw [List.cons_append, ← placeholder?_of_starts starts, ← List.cons_append] at hread
    have h := expandChars_placeholder env (first :: others) rest hread rfl
    rw [fill_eq] at h
    exact h

/-- So are written segments one after the other, by induction on the template. -/
theorem expandChars_writeAll {template : List Segment} (h : Legible template) :
    expandChars env 0 (writeAll template) =
      (template.flatMap (Segment.filled env), template.flatMap (Segment.notes env)) := by
  induction template with
  | nil => rfl
  | cons s rest ih =>
    have hsplit : writeAll (s :: rest) = s.written ++ writeAll rest := rfl
    rw [hsplit, expandChars_segment env s h.1, ih h.2]
    rfl

/-- A note about a name without an opening bracket is plain, so every console takes it. -/
theorem unsetNote_isPlain {name : List Char} (h : '[' ∉ name) :
    (unsetNote (String.ofList name)).IsPlain := by
  have htext : '[' ∉ ("Environment variable '" ++ String.ofList name ++
      "' not found, keeping original value" : String).toList := by
    simp only [String.toList_append, List.mem_append, not_or]
    refine ⟨⟨by decide +kernel, ?_⟩, by decide +kernel⟩
    rwa [String.toList_ofList]
  exact ⟨_, htext, Or.inr ⟨_, rfl⟩⟩

end Filling

/-- A template with a literal, a placeholder whose variable is set to a text that looks like one,
one whose variable is empty, one with a default that looks like one, and one without braces. -/
def mixedTemplate : List Segment :=
  [.literal "at ".toList (by decide),
    .braced "HOST".toList none (by decide) (List.all_iff_forall_prop.mp (by decide)) nofun,
    .braced "PORT".toList (some "80".toList) (by decide) (List.all_iff_forall_prop.mp (by decide))
      (fun _ hd => Option.some.inj hd ▸ List.all_iff_forall_prop.mp (by decide)),
    .braced "a $b".toList (some "$HOST".toList) (by decide)
      (List.all_iff_forall_prop.mp (by decide))
      (fun _ hd => Option.some.inj hd ▸ List.all_iff_forall_prop.mp (by decide)),
    .bare 'D' "IR_2".toList (by decide) (List.all_iff_forall_prop.mp (by decide)),
    .literal "-x".toList (by decide)]

/-- A template with one placeholder, without a default. -/
def bareTemplate : List Segment :=
  [.bare 'X' [] (by decide) nofun]

end ItemCatalog.Config
