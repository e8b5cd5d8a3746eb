import ItemCatalog.Text.Ranges

/-! # Blank characters: what surrounds a text and does not count

A character is blank if it only separates: the white space of all scripts and the four information
separators. `strip` removes the blanks at both ends; a text is blank if nothing else is in it. -/

namespace ItemCatalog.Text

/-- The blank code points. -/
def blankRanges : Ranges :=
  [(0x9, 0xd), (0x1c, 0x20), (0x85, 0x85), (0xa0, 0xa0), (0x1680, 0x1680), (0x2000, 0x200a),
   (0x2028, 0x2029), (0x202f, 0x202f), (0x205f, 0x205f), (0x3000, 0x3000)]

/-- Whether a character only separates. -/
def isBlank (c : Char) : Bool :=
  blankRanges.has c

/-! ### Stripping -/

/-- The characters without the blanks at both ends. -/
def stripChars (cs : List Char) : List Char :=
  ((cs.dropWhile isBlank).reverse.dropWhile isBlank).reverse

/-- A text without the blanks at both ends. -/
def strip (s : String) : String :=
  String.ofList (stripChars s.toList)

/-- Whether a text holds nothing but blanks. -/
def allBlank (s : String) : Bool :=
  s.toList.all isBlank

/-! ### Laws -/

theorem filter_dropWhile_isBlank (cs : List Char) :
    (cs.dropWhile isBlank).filter (!isBlank ·) = cs.filter (!isBlank ·) := by
  induction cs with
  | nil => rfl
  | cons c cs ih =>
    rw [List.dropWhile_cons]
    split
    · rename_i hc
      rw [ih, List.filter_cons_of_neg (by simp [hc])]
    · rfl

/-- Stripping takes nothing away but blanks. -/
theorem filter_stripChars (cs : List Char) :
    (stripChars cs).filter (!isBlank ·) = cs.filter (!isBlank ·) := by
  rw [stripChars, List.filter_reverse, filter_dropWhile_isBlank, List.filter_reverse,
    List.reverse_reverse, filter_dropWhile_isBlank]

/-- A text without blanks is left as it is. -/
theorem stripChars_of_not_blank {cs : List Char} (h : ∀ c ∈ cs, isBlank c = false) :
    stripChars cs = cs := by
  have hdrop : ∀ xs : List Char, (∀ c ∈ xs, isBlank c = false) → xs.dropWhile isBlank = xs := by
    intro xs hxs
    cases xs with
    | nil => rfl
    | cons x xs => exact List.dropWhile_cons_of_neg (by simp [hxs x List.mem_cons_self])
  unfold stripChars
  rw [hdrop cs h, hdrop cs.reverse fun c hc => h c (List.mem_reverse.mp hc), List.reverse_reverse]

/-- **More characters** behind a text leave what is stripped of it as it is if they are blank. -/
theorem stripChars_append_eq_iff {xs ys : List Char} :
    stripChars (xs ++ ys) = stripChars xs ↔ ∀ y ∈ ys, isBlank y = true := by
  constructor
  · intro h
    have hfilter := congrArg (List.filter (!isBlank ·)) h
    rw [filter_stripChars, filter_stripChars, List.filter_append, List.append_right_eq_self,
      List.filter_eq_nil_iff] at hfilter
    exact fun y hy => by simpa using hfilter y hy
  · intro h
    have hys : ys.dropWhile isBlank = [] := by
      rw [← List.append_nil ys, List.dropWhile_append_of_pos h, List.dropWhile_nil]
    rw [stripChars, List.dropWhile_append]
    split
    · rename_i hxs
      rw [hys, stripChars, List.isEmpty_iff.mp hxs]
    · rw [List.reverse_append, List.dropWhile_append_of_pos (by simpa using h), stripChars]

end ItemCatalog.Text
