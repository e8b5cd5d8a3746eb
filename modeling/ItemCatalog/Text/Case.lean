import ItemCatalog.Text.CaseTable

/-! # Letter case: lower and title forms of texts

`lower` gives every letter its lower form. `title` gives the first letter of every run of cased
letters its title form and the others their lower form. A capital sigma becomes the final small
sigma where it ends a word. -/

namespace ItemCatalog.Text

/-- The form that a list of runs gives to a character, itself if no run holds it. -/
def CaseRun.form (runs : List CaseRun) (c : Char) : Char :=
  match runs.find? fun r =>
      r.first ≤ c.toNat && c.toNat ≤ r.last && (c.toNat - r.first) % r.step == 0 with
  | some r => Char.ofNat (Int.toNat (c.toNat + r.delta))
  | none => c

/-- The form of a character by the list of long forms first and the runs second. -/
def caseForm (specials : List (Nat × List Nat)) (runs : List CaseRun) (c : Char) : List Char :=
  match specials.find? fun s => s.1 == c.toNat with
  | some s => s.2.map Char.ofNat
  | none => [CaseRun.form runs c]

/-- Whether a character is an upper, lower or title case letter. -/
def isCased (c : Char) : Bool :=
  if c.toNat < 0x80 then c.isAlpha else casedRanges.has c

/-- Whether a character is skipped in the search for a cased neighbour. -/
def isCaseIgnorable (c : Char) : Bool :=
  caseIgnorableRanges.has c

/-- Whether the nearest character that is not skipped is cased. -/
def nearestCased (cs : List Char) : Bool :=
  match cs.dropWhile isCaseIgnorable with
  | [] => false
  | c :: _ => isCased c

/-- The lower form of a letter between the characters `before`, nearest first, and `after`. -/
def lowerChar (before : List Char) (c : Char) (after : List Char) : List Char :=
  if c.toNat < 0x80 then [c.toLower]
  else if c = 'Σ' then [if nearestCased before && !nearestCased after then 'ς' else 'σ']
  else caseForm lowerSpecials lowerRuns c

/-- The lower form of the characters that follow `before`. -/
def lowerChars (before : List Char) : List Char → List Char
  | [] => []
  | c :: cs => lowerChar before c cs ++ lowerChars (c :: before) cs

/-- The lower form of a text. -/
def lower (s : String) : String :=
  String.ofList (lowerChars [] s.toList)

/-- The title form of a letter. -/
def titleChar (c : Char) : List Char :=
  if c.toNat < 0x80 then [c.toUpper] else caseForm titleSpecials titleRuns c

/-- The title form of the characters that follow `before`. -/
def titleChars (before : List Char) : List Char → List Char
  | [] => []
  | c :: cs =>
    (if before.head?.any isCased then lowerChar before c cs else titleChar c)
      ++ titleChars (c :: before) cs

/-- The title form of a text. -/
def title (s : String) : String :=
  String.ofList (titleChars [] s.toList)

/-! ### Laws -/

theorem lowerChars_of_ascii {cs : List Char} (h : ∀ c ∈ cs, c.toNat < 0x80) (before : List Char) :
    lowerChars before cs = cs.map Char.toLower := by
  induction cs generalizing before with
  | nil => rfl
  | cons c cs ih =>
    obtain ⟨hc, hcs⟩ := List.forall_mem_cons.mp h
    rw [lowerChars, lowerChar, if_pos hc, ih hcs, List.map_cons, List.singleton_append]

/-- The lower form of a text of ASCII is found letter by letter. -/
theorem lower_of_ascii {cs : List Char} (h : ∀ c ∈ cs, c.toNat < 0x80) :
    lower (String.ofList cs) = String.ofList (cs.map Char.toLower) := by
  rw [lower, String.toList_ofList, lowerChars_of_ascii h]

end ItemCatalog.Text
