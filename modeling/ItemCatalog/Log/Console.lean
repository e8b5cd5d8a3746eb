import ItemCatalog.Log.Component
import ItemCatalog.Log.Registry
import ItemCatalog.Text.Markup.Fits

/-! # Consoles: who shows what is said

A console shows records from ordinary events on; details do not come to it, and neither does what
the loggers keep back. It may read a text as a marked text, and then it does not take one whose tags
do not fit: saying it ends with a fault, in the middle of the work that said it. A message without
an opening bracket always fits. What is named by the tags of handlers, which start with `@`, is not
looked at. -/

namespace ItemCatalog.Log

/-! ### Messages without tags -/

/-- A warning of the initialization, or a plain record about the configuration, whose message has no
opening bracket, so that the only tags in it are those of its style. -/
def Record.IsPlain (r : Record) : Prop :=
  ∃ message : String, '[' ∉ message.toList ∧
    ((∃ fault, r = initialization.warning message fault) ∨ ∃ level, r = config level message)

section Warnings

open Text.Markup

/-- The style of warnings. -/
def warningStyle : List Char := 'b' :: "old yellow".toList

/-- A warning is its message, behind a sign and the name of its component, in its style. -/
theorem toList_warning (message : String) (fault : Option (Option Fault)) :
    (initialization.warning message fault).text.toList = '[' :: 'b' :: ("old yellow".toList ++
      ']' :: (("⚠️  " ++ "Catalog_Init" ++ ": " : String).toList ++ message.toList ++
        closing warningStyle)) := by
  have htitle : Text.title initialization.name = "Catalog_Init" := by decide +kernel
  have hfront : ("[" ++ "bold yellow" ++ "]" : String).toList =
      '[' :: 'b' :: ("old yellow".toList ++ [']']) := by decide +kernel
  have hback : ("[/" ++ ("bold yellow" ++ "]") : String).toList = closing warningStyle := by
    decide +kernel
  have hbody : ("⚠️  " ++ "Catalog_Init" ++ ": " ++ message : String).toList =
      ("⚠️  " ++ "Catalog_Init" ++ ": " : String).toList ++ message.toList := String.toList_append
  have htext : (initialization.warning message fault).text = "[" ++ "bold yellow" ++ "]" ++
      ("⚠️  " ++ Text.title initialization.name ++ ": " ++ message) ++
        ("[/" ++ ("bold yellow" ++ "]")) := by
    rw [← String.append_assoc, ← String.append_assoc]
    rfl
  rw [htext, htitle, String.toList_append, String.toList_append, hfront, hback, hbody]
  simp only [List.cons_append, List.append_assoc, List.nil_append]

theorem styleName_bold_yellow : styleName "bold yellow" = "bold yellow" := by decide +kernel

theorem openAfter_warningStyle (place : Nat) :
    openAfter [] warningStyle place = .ok ["bold yellow"] := by
  have hname : warningStyle.takeWhile (· != '=') = warningStyle := by decide +kernel
  unfold openAfter
  rw [hname]
  exact congrArg (fun name => Except.ok [name]) styleName_bold_yellow

theorem openAfter_closing_warningStyle (place : Nat) :
    openAfter ["bold yellow"] ('/' :: warningStyle) place = .ok [] := by
  have hname : ('/' :: warningStyle).takeWhile (· != '=') = '/' :: warningStyle := by
    decide +kernel
  have hclosed : Text.strip (String.ofList warningStyle) = "bold yellow" := by decide +kernel
  have hempty : "bold yellow".isEmpty = false := by decide +kernel
  unfold openAfter
  rw [hname]
  simp only [hclosed, hempty, styleName_bold_yellow, eraseFirst?, if_true, Bool.false_eq_true,
    if_false]

/-- The text of a plain record fits. -/
theorem Record.IsPlain.fits {r : Record} (h : r.IsPlain) : Fits r.text := by
  obtain ⟨message, hmessage, ⟨fault, rfl⟩ | ⟨level, rfl⟩⟩ := h
  · exact .of_styled (toList_warning message fault) rfl (by decide +kernel) openAfter_warningStyle
      (fun place => ⟨[], openAfter_closing_warningStyle place⟩)
      fun h => (List.mem_append.mp h).elim (by decide +kernel) hmessage
  · exact .of_tagless hmessage

end Warnings

/-! ### Consoles -/

/-- A console, by the fault that a record ends with which it does not take, if it does not. It shows
no details, it takes every plain record, and none of its faults is fatal. -/
structure Console where
  refusal? : Record → Option Fault
  refusal?_detail : ∀ r, r.level < info → refusal? r = none
  refusal?_plain : ∀ r, r.IsPlain → refusal? r = none
  refusal?_ordinary : ∀ r e, refusal? r = some e → e.isFatal = false

namespace Console

/-- A console that shows texts as they are. -/
def verbatim : Console where
  refusal? _ := none
  refusal?_detail _ _ := rfl
  refusal?_plain _ _ := rfl
  refusal?_ordinary _ _ h := nomatch h

instance : Inhabited Console := ⟨verbatim⟩

/-- **A console that reads texts as marked texts.** -/
def marked : Console where
  refusal? r :=
    if r.level < info then none
    else match Text.Markup.plainText r.text with
      | .ok _ => none
      | .error e => some (.ofMarkup e)
  refusal?_detail _ h := if_pos h
  refusal?_plain r h := by
    obtain ⟨shown, hshown⟩ := h.fits
    rw [hshown]
    exact ite_self none
  refusal?_ordinary r e h := by
    split at h
    · cases h
    · split at h <;> cases h
      rfl

/-- **A console behind loggers:** what they keep back does not come to it. -/
def behind (c : Console) (r : Registry) : Console where
  refusal? record := if (r.said [record]).isEmpty then none else c.refusal? record
  refusal?_detail record h := by rw [c.refusal?_detail record h, ite_self]
  refusal?_plain record h := by rw [c.refusal?_plain record h, ite_self]
  refusal?_ordinary record e h := by
    split at h
    · cases h
    · exact c.refusal?_ordinary record e h

/-- The records that a console takes, up to the first that it does not, and the fault of that
one. -/
def take (c : Console) : List Record → List Record × Option Fault
  | [] => ([], none)
  | r :: rest =>
    match c.refusal? r with
    | some e => ([], some e)
    | none =>
      let (taken, e) := c.take rest
      (r :: taken, e)

/-- What saying records ends with: nothing, or the fault of the one that is not taken. -/
def said (c : Console) (log : List Record) : Except Fault Unit :=
  (c.take log).2.elim (.ok ()) .error

/-- **What is made while something is noted**, and what is said then: it is lost if a note is not
taken. -/
def noting {α : Type} (c : Console) (noted : α × List Record) : Except Fault α × List Record :=
  ((c.said noted.2).map fun _ => noted.1, (c.take noted.2).1)

end Console

end ItemCatalog.Log
