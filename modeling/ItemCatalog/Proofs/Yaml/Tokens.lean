import ItemCatalog.Yaml.Scan

/-! # Faults of tokens: why a scan ends early

A text is cut into tokens from the left. Whatever stops the scan breaks the rules of the format, but
for one thing: an escape between double quotes may name a code point beyond the last one
(`scan_fault`). -/

namespace ItemCatalog.Yaml

/-- A fault of the tokens of a text. -/
def TokenFault (e : Fault) : Prop :=
  e = .malformed ∨ e = .codePoint

/-- A part of a scan that has a result or stops with a fault of tokens. -/
def Cuts {α : Type} (r : Except Fault α) : Prop :=
  ∀ e, r = .error e → TokenFault e

namespace Cuts

variable {α β : Type} {r q : Except Fault α} {f : α → Except Fault β}

theorem ok (a : α) : Cuts (.ok a) := nofun

theorem malformed : Cuts (.error .malformed : Except Fault α) :=
  fun _ h => .inl (Except.error.inj h).symm

theorem codePoint : Cuts (.error .codePoint : Except Fault α) :=
  fun _ h => .inr (Except.error.inj h).symm

theorem bind (hr : Cuts r) (hf : ∀ a, Cuts (f a)) : Cuts (r >>= f) := by
  cases r with
  | error e => exact fun e' h => hr e' (congrArg Except.error (Except.error.inj h))
  | ok a => exact hf a

theorem ite {b : Prop} [Decidable b] (hr : Cuts r) (hq : Cuts q) : Cuts (if b then r else q) := by
  split
  · exact hr
  · exact hq

end Cuts

/-! ### Scalars -/

theorem blockIndicators_cuts (c : Cursor) : Cuts (blockIndicators c) := by
  have hends : ∀ p : Chomp × Option Nat × Cursor, Cuts (if p.2.1 == some 0 then .error .malformed
      else if endOr isSpaceOrBreak p.2.2.peek? then .ok ((p.1, p.2.1), p.2.2)
      else .error .malformed) := fun _ => .ite .malformed (.ite (.ok _) .malformed)
  exact hends _

theorem ignoredLine_cuts (c : Cursor) : Cuts (ignoredLine c) := .ite (.ok _) .malformed

theorem blockScalar_cuts (folded : Bool) (indent : Int) (c : Cursor) :
    Cuts (blockScalar folded indent c) :=
  (blockIndicators_cuts _).bind fun _ => (ignoredLine_cuts _).bind fun _ => .ok _

theorem codeEscape_cuts (width : Nat) (c : Cursor) : Cuts (codeEscape? width c) := by
  refine .ite .malformed ?_
  split
  · exact .ite .codePoint (.ok _)
  · exact .malformed

theorem quotedBreaks_cuts (fuel : Nat) (c : Cursor) (breaks : List Char) :
    Cuts (quotedBreaks fuel c breaks) := by
  fun_induction quotedBreaks fuel c breaks with
  | case1 => exact .ok _
  | case2 => exact .malformed
  | case3 _ _ _ _ _ _ _ ih => exact ih
  | case4 => exact .ok _

theorem escape_cuts (c : Cursor) : Cuts (escape c) := by
  rw [escape]
  split
  · exact .malformed
  · split
    · exact .ok _
    · split
      · refine (codeEscape_cuts _ _).bind fun n => ?_
        dsimp only
        split
        · exact .ok _
        · exact .ok _
      · exact .ite (quotedBreaks_cuts _ _ _) .malformed

theorem quotedSpaces_cuts (c : Cursor) : Cuts (quotedSpaces c) := by
  rw [quotedSpaces]
  dsimp only
  split
  · exact .malformed
  · exact .ite ((quotedBreaks_cuts _ _ _).bind fun _ => .ok _) (.ok _)

theorem quotedText_cuts (double : Bool) (fuel : Nat) (c : Cursor) (text : List Char) :
    Cuts (quotedText double fuel c text) := by
  induction fuel generalizing c text with
  | zero => exact .malformed
  | succ fuel ih =>
    rw [quotedText]
    split
    · exact .malformed
    · exact .ite (ih _ _) (.ite (.ok _) (.ite ((escape_cuts _).bind fun _ => ih _ _)
        (.ite ((quotedSpaces_cuts _).bind fun _ => ih _ _) (.ite (ih _ _) (ih _ _)))))

theorem quotedScalar_cuts (double : Bool) (c : Cursor) : Cuts (quotedScalar double c) :=
  (quotedText_cuts double _ _ _).bind fun _ => .ok _

/-! ### Names, tags and directives -/

theorem nameToken_cuts (make : String → Token) (c : Cursor) : Cuts (nameToken make c) :=
  .ite (.ok _) .malformed

theorem tagSuffix_cuts (c : Cursor) : Cuts (tagSuffix c) := by
  rw [tagSuffix]
  dsimp only
  split
  · refine .ite .malformed ?_
    split
    · exact .ok _
    · exact .malformed
  · exact .malformed

theorem tagHandle_cuts (c : Cursor) : Cuts (tagHandle c) :=
  .ite .malformed (.ite (.ok _) (.ite (.ok _) .malformed))

theorem tagToken_cuts (c : Cursor) : Cuts (tagToken c) := by
  have hends : ∀ r : Token × Cursor, Cuts (if endOr isSpaceOrBreak r.2.peek? then .ok r
      else .error .malformed) := fun _ => .ite (.ok _) .malformed
  rw [tagToken]
  split
  · exact (tagSuffix_cuts _).bind fun _ =>
      .ite ((Cuts.ok _).bind hends) (Cuts.malformed.bind hends)
  · exact .ite ((Cuts.ok _).bind hends) (.ite
      ((tagHandle_cuts c).bind fun _ => (tagSuffix_cuts _).bind fun _ => (Cuts.ok _).bind hends)
      ((tagSuffix_cuts _).bind fun _ => (Cuts.ok _).bind hends))

theorem versionNumber_cuts (c : Cursor) : Cuts (versionNumber c) := .ite .malformed (.ok _)

theorem versionValue_cuts (c : Cursor) : Cuts (versionValue c) :=
  (versionNumber_cuts _).bind fun _ => .ite .malformed
    ((versionNumber_cuts _).bind fun _ => .ite (.ok _) .malformed)

theorem handleValue_cuts (c : Cursor) : Cuts (handleValue c) :=
  (tagHandle_cuts _).bind fun _ => .ite .malformed
    ((tagSuffix_cuts _).bind fun _ => .ite (.ok _) .malformed)

theorem directiveLine_cuts (c : Cursor) : Cuts (directiveLine c) := by
  have hends : ∀ r : Directive × Cursor, Cuts (do
      return (Token.directive r.1, ← ignoredLine r.2)) :=
    fun _ => (ignoredLine_cuts _).bind fun _ => .ok _
  refine .ite .malformed ?_
  split
  · exact (versionValue_cuts _).bind hends
  · exact (handleValue_cuts _).bind hends
  · exact (Cuts.ok _).bind hends

/-! ### The scan -/

namespace Scanner

theorem dropKey_cuts (s : Scanner) : Cuts s.dropKey := by
  rw [dropKey]
  split
  · exact .ite .malformed (.ok _)
  · exact .ok _

theorem saveKey_cuts (s : Scanner) : Cuts s.saveKey :=
  .ite (s.dropKey_cuts.bind fun _ => .ok _) (.ok _)

theorem dropStale_cuts (s : Scanner) : Cuts s.dropStale := .ite .malformed (.ok _)

theorem inBlock_cuts (t : Token) (s : Scanner) : Cuts (s.inBlock t) :=
  .ite (.ok _) (.ite (.ok _) .malformed)

/-- A mark of a block is pushed where a key may start. -/
theorem blockMark_cuts (t : Token) (s : Scanner) (allowed : Scanner → Bool)
    (last : Scanner → Scanner) :
    Cuts (do
      let s ← s.inBlock t
      let s ← (s.allowKey (allowed s)).dropKey
      return last s) :=
  (inBlock_cuts t s).bind fun _ => (dropKey_cuts _).bind fun _ => .ok _

theorem valueMark_cuts (s : Scanner) : Cuts s.valueMark := by
  rw [valueMark]
  split
  · exact .ok _
  · exact blockMark_cuts _ s _ _

theorem keyToken_cuts {read : Cursor → Except Fault (Token × Cursor)} (hread : ∀ c, Cuts (read c))
    (s : Scanner) : Cuts (s.keyToken read) :=
  s.saveKey_cuts.bind fun _ => (hread _).bind fun _ => .ok _

theorem block_cuts (folded : Bool) (s : Scanner) : Cuts (s.block folded) :=
  (dropKey_cuts _).bind fun _ => (blockScalar_cuts _ _ _).bind fun _ => .ok _

theorem quoted_cuts (double : Bool) (s : Scanner) : Cuts (s.quoted double) :=
  s.keyToken_cuts fun c => (quotedScalar_cuts double c).bind fun _ => .ok _

theorem token_cuts (s : Scanner) (x : Char) : Cuts (s.token x) := by
  have hmark : ∀ t, Cuts (s.documentMark t) := fun _ => (dropKey_cuts _).bind fun _ => .ok _
  have hopen : ∀ t, Cuts (s.openFlow t) := fun _ => s.saveKey_cuts.bind fun _ => .ok _
  have hclose : ∀ t, Cuts (s.closeFlow t) := fun _ => s.dropKey_cuts.bind fun _ => .ok _
  have hplain : Cuts s.plain := s.saveKey_cuts.bind fun _ => .ok _
  exact .ite ((dropKey_cuts _).bind fun _ => (directiveLine_cuts _).bind fun _ => .ok _) <|
    .ite (hmark _) <| .ite (hmark _) <| .ite (hopen _) <| .ite (hopen _) <| .ite (hclose _) <|
    .ite (hclose _) <| .ite ((dropKey_cuts _).bind fun _ => .ok _) <|
    .ite (blockMark_cuts _ s _ _) <| .ite (blockMark_cuts _ s _ _) <| .ite s.valueMark_cuts <|
    .ite (s.keyToken_cuts (nameToken_cuts _)) <| .ite (s.keyToken_cuts (nameToken_cuts _)) <|
    .ite (s.keyToken_cuts tagToken_cuts) <| .ite (s.block_cuts _) <| .ite (s.block_cuts _) <|
    .ite (s.quoted_cuts _) <| .ite (s.quoted_cuts _) <| .ite hplain .malformed

theorem step_cuts (s : Scanner) : Cuts s.step := by
  refine s.toNextToken.dropStale_cuts.bind fun s => ?_
  dsimp only
  split
  · exact (dropKey_cuts _).bind fun _ => .ok _
  · exact token_cuts _ _

theorem run_fault (fuel : Nat) (s : Scanner) : TokenFault (s.run fuel).fault := by
  induction fuel generalizing s with
  | zero => exact .inl rfl
  | succ fuel ih =>
    rw [run]
    split
    · exact s.step_cuts _ (by assumption)
    · split
      · exact .inl rfl
      · exact ih _

end Scanner

/-- **The end of a scan.** -/
theorem scan_fault (cs : List Char) : TokenFault (scan cs).fault := by
  rw [scan]
  split
  · exact Scanner.run_fault _ _
  · exact .inl rfl

end ItemCatalog.Yaml
