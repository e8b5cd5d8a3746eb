import ItemCatalog.Text.Markup

/-! # Texts whose tags fit

A marked text fits if every closing tag has a style to close. A text without an opening bracket fits
(`Fits.of_tagless`), also inside a style that its own tags open and close (`Fits.of_styled`):
slashes at its end may make plain text of the closing tag, and a style that stays open does no
harm. -/

namespace ItemCatalog.Text.Markup

/-! ### Texts that fit -/

/-- A text whose tags fit. -/
def Fits (s : String) : Prop :=
  ∃ shown, plainText s = .ok shown

theorem Fits.of_seen {s : String} {shown : List Char}
    (h : seen [] (parts (s.toList.length + 1) 0 [] s.toList) = .ok shown) : Fits s := by
  rw [Fits, plainText, h]
  exact ⟨_, rfl⟩

theorem seen_plainPart (styles : List String) (before : List Char) (rest : List Part) :
    ∃ cs, seen styles (plainPart before ++ rest) = (do return cs ++ (← seen styles rest)) := by
  unfold plainPart
  split
  · exact ⟨[], by cases h : seen styles rest <;> simp [h]⟩
  · exact ⟨_, rfl⟩

/-- A tag stands behind its slashes. -/
theorem drop_of_tagAt? {cs text rest : List Char} {slashes : Nat}
    (h : tagAt? cs = some (slashes, text, rest)) :
    cs.drop slashes = '[' :: text ++ ']' :: rest := by
  unfold tagAt? at h
  extract_lets n at h
  split at h
  · next c more hdrop =>
    extract_lets inside at h
    split at h
    · next hafter =>
      split at h
      · obtain ⟨rfl, rfl, rfl⟩ := by simpa using h
        rw [hdrop, ← hafter]
        show '[' :: c :: more = '[' :: c :: (inside ++ more.drop inside.length)
        rw [List.prefix_iff_eq_append.mp (List.takeWhile_prefix _)]
      · cases h
    · cases h
  · cases h

/-- A tag has a bracket. -/
theorem tagAt?_eq_none {cs : List Char} (h : '[' ∉ cs) : tagAt? cs = none := by
  cases htag : tagAt? cs with
  | none => rfl
  | some tag =>
    have hmem : '[' ∈ cs.drop tag.1 := by
      rw [drop_of_tagAt? htag]
      exact List.mem_cons_self
    exact absurd (List.mem_of_mem_drop hmem) h

/-- Characters without a bracket are plain, by induction on them. -/
theorem parts_eq_plainPart {cs : List Char} (h : '[' ∉ cs) (n place : Nat) (before : List Char) :
    parts n place before cs = plainPart (cs.reverse ++ before) := by
  induction cs generalizing n place before with
  | nil => cases n <;> rfl
  | cons c cs ih =>
    cases n with
    | zero => rfl
    | succ n =>
      rw [parts, tagAt?_eq_none h]
      show parts n (place + 1) (c :: before) cs = _
      rw [ih (fun hmem => h (List.mem_cons_of_mem c hmem)), List.reverse_cons, List.append_assoc]
      rfl

theorem seen_of_tagless (styles : List String) {cs : List Char} (h : '[' ∉ cs) (n place : Nat)
    (before : List Char) : ∃ shown, seen styles (parts n place before cs) = .ok shown := by
  obtain ⟨shown, hshown⟩ := seen_plainPart styles (cs.reverse ++ before) []
  rw [List.append_nil] at hshown
  exact ⟨_, by rw [parts_eq_plainPart h, hshown]; rfl⟩

/-- A text without a bracket fits. -/
theorem Fits.of_tagless {s : String} (h : '[' ∉ s.toList) : Fits s :=
  (seen_of_tagless [] h _ 0 []).elim fun _ hshown => .of_seen hshown

/-! ### Texts in a style -/

/-- What closes a style. -/
def closing (style : List Char) : List Char :=
  '[' :: ('/' :: style ++ [']'])

/-- Behind characters without a bracket the tag that closes a style is the only one. -/
theorem tagAt?_append_closing {body style text rest : List Char} {slashes : Nat}
    (hbody : '[' ∉ body) (hstyle : '[' ∉ style ∧ ']' ∉ style)
    (htag : tagAt? (body ++ closing style) = some (slashes, text, rest)) :
    text = '/' :: style ∧ rest = [] := by
  have hdrop := drop_of_tagAt? htag
  rw [List.drop_append] at hdrop
  have hshort : body.drop slashes = [] := by
    cases hrest : body.drop slashes with
    | nil => rfl
    | cons c cs =>
      rw [hrest] at hdrop
      have hmem : '[' ∈ body.drop slashes := by
        rw [hrest, (List.cons.inj hdrop).1]
        exact List.mem_cons_self
      exact absurd (List.mem_of_mem_drop hmem) hbody
  rw [hshort, List.nil_append] at hdrop
  -- The only opening bracket of what closes the style is its first character.
  have hinner : '[' ∉ '/' :: style ++ [']'] := by simp [hstyle.1]
  cases hn : slashes - body.length with
  | succ n =>
    rw [hn] at hdrop
    have hmem : '[' ∈ ('/' :: style ++ [']']).drop n := by
      rw [show ('/' :: style ++ [']']).drop n = _ from hdrop]
      exact List.mem_cons_self
    exact absurd (List.mem_of_mem_drop hmem) hinner
  | zero =>
    rw [hn] at hdrop
    have hparts : text ++ ']' :: rest = '/' :: style ++ [']'] := ((List.cons.inj hdrop).2).symm
    have hclosed : ']' ∉ '/' :: style := by simp [hstyle.2]
    rcases List.append_eq_append_iff.mp hparts with ⟨more, hmore, hrest⟩ | ⟨more, rfl, hrest⟩
    · cases more with
      | nil =>
        rw [List.append_nil] at hmore
        exact ⟨hmore.symm, (List.cons.inj hrest).2⟩
      | cons d more =>
        rw [(List.cons.inj hrest).1.symm] at hmore
        exact absurd (hmore ▸ List.mem_append_right _ List.mem_cons_self) hclosed
    · cases more with
      | nil => exact ⟨List.append_nil _, (List.cons.inj hrest).2.symm⟩
      | cons d more => cases more <;> simp at hrest

theorem seen_plain_tag {styles left : List String} {text : List Char} {place : Nat}
    (hleft : openAfter styles text place = .ok left) (before cs : List Char) :
    ∃ shown, seen styles (plainPart before ++ [.plain cs, .tag text place]) = .ok shown := by
  obtain ⟨front, hfront⟩ := seen_plainPart styles before [.plain cs, .tag text place]
  rw [hfront, seen, seen, hleft]
  exact ⟨_, rfl⟩

theorem seen_plain_plain (styles : List String) (before cs whole : List Char) :
    ∃ shown, seen styles (plainPart before ++ [.plain cs, .plain whole]) = .ok shown := by
  obtain ⟨front, hfront⟩ := seen_plainPart styles before [.plain cs, .plain whole]
  exact ⟨_, hfront⟩

section Closing

variable {styles : List String} {style : List Char} (hstyle : '[' ∉ style ∧ ']' ∉ style)
  (hcloses : ∀ place, ∃ left, openAfter styles ('/' :: style) place = .ok left)
include hstyle hcloses

/-- The closing tag closes the style, or slashes before it make plain text of it. -/
theorem seen_of_closing_tag {body cs text rest : List Char} {c : Char} {slashes : Nat}
    (hbody : '[' ∉ body) (hcs : c :: cs = body ++ closing style)
    (htag : tagAt? (c :: cs) = some (slashes, text, rest)) (n place : Nat) (before : List Char) :
    ∃ shown, seen styles (parts (n + 1) place before (c :: cs)) = .ok shown := by
  obtain ⟨rfl, rfl⟩ := tagAt?_append_closing hbody hstyle (hcs ▸ htag)
  have hnone : ∀ next, parts n next [] [] = [] := fun next => by cases n <;> rfl
  rw [parts, htag]
  simp only [hnone]
  split
  · exact seen_plain_plain styles _ _ _
  · obtain ⟨left, hleft⟩ := hcloses (place + slashes / 2 * 2)
    exact seen_plain_tag hleft _ _

/-- Characters without a bracket in an open style fit, by induction on them. -/
theorem seen_append_closing {body : List Char} (hbody : '[' ∉ body) (n place : Nat)
    (before : List Char) :
    ∃ shown, seen styles (parts n place before (body ++ closing style)) = .ok shown := by
  induction body generalizing n place before with
  | nil =>
    cases n with
    | zero =>
      obtain ⟨shown, hshown⟩ := seen_plainPart styles ((closing style).reverse ++ before) []
      rw [List.append_nil] at hshown
      exact ⟨_, hshown⟩
    | succ n =>
      cases htag : tagAt? (closing style) with
      | none =>
        rw [List.nil_append, closing, parts, ← closing, htag]
        exact seen_of_tagless styles (by simp [hstyle.1]) n (place + 1) _
      | some tag => exact seen_of_closing_tag hstyle hcloses hbody rfl htag n place before
  | cons c body ih =>
    cases n with
    | zero =>
      obtain ⟨shown, hshown⟩ :=
        seen_plainPart styles ((c :: body ++ closing style).reverse ++ before) []
      rw [List.append_nil] at hshown
      exact ⟨_, hshown⟩
    | succ n =>
      cases htag : tagAt? (c :: (body ++ closing style)) with
      | none =>
        rw [List.cons_append, parts, htag]
        exact ih (fun h => hbody (List.mem_cons_of_mem c h)) n (place + 1) (c :: before)
      | some tag => exact seen_of_closing_tag hstyle hcloses hbody rfl htag n place before

end Closing

/-- A tag at the start of a text. -/
theorem tagAt?_of_tag {c : Char} {inside rest : List Char} (hc : startsTag c = true)
    (hinside : '[' ∉ inside ∧ ']' ∉ inside) :
    tagAt? ('[' :: c :: (inside ++ ']' :: rest)) = some (0, c :: inside, rest) := by
  have hin : ∀ d ∈ inside, (d != ']' && d != '[') = true := fun d hd => by
    rw [Bool.and_eq_true, bne_iff_ne, bne_iff_ne]
    exact ⟨fun h => hinside.2 (h ▸ hd), fun h => hinside.1 (h ▸ hd)⟩
  have htake : (inside ++ ']' :: rest).takeWhile (fun d => d != ']' && d != '[') = inside := by
    rw [List.takeWhile_append_of_pos hin, List.takeWhile_cons_of_neg (by decide), List.append_nil]
  have hslashes : ('[' :: c :: (inside ++ ']' :: rest)).takeWhile (· == '\\') = [] :=
    List.takeWhile_cons_of_neg (by decide)
  simp only [tagAt?, hslashes, List.length_nil, List.drop_zero, htake, List.drop_left, hc, if_true]

/-- A text without a bracket fits in a style that its own tags open and close. -/
theorem Fits.of_styled {s : String} {c : Char} {inside body : List Char} {styles : List String}
    (hs : s.toList = '[' :: c :: (inside ++ ']' :: (body ++ closing (c :: inside))))
    (hc : startsTag c = true) (hstyle : '[' ∉ c :: inside ∧ ']' ∉ c :: inside)
    (hopens : ∀ place, openAfter [] (c :: inside) place = .ok styles)
    (hcloses : ∀ place, ∃ left, openAfter styles ('/' :: c :: inside) place = .ok left)
    (hbody : '[' ∉ body) : Fits s := by
  have htag : tagAt? s.toList = some (0, c :: inside, body ++ closing (c :: inside)) := by
    rw [hs]
    exact tagAt?_of_tag hc ⟨fun h => hstyle.1 (.tail c h), fun h => hstyle.2 (.tail c h)⟩
  obtain ⟨shown, hshown⟩ := seen_append_closing hstyle hcloses hbody s.toList.length
    (0 + 0 + ('[' :: (c :: inside) ++ [']']).length) []
  refine @Fits.of_seen s shown ?_
  rw [hs] at htag hshown ⊢
  rw [parts, htag]
  change seen [] (.plain [] :: .tag (c :: inside) 0 :: parts _ _ [] _) = _
  rw [seen, seen, hopens]
  change (seen styles _ >>= fun cs => pure ([] ++ cs)) = _
  rw [hshown]
  rfl

end ItemCatalog.Text.Markup
