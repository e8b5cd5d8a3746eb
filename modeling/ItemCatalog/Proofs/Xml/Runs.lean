import ItemCatalog.Xml.Read
import Mathlib.Data.Option.Basic
import Mathlib.Tactic.SplitIfs

/-! # Runs of text: what an element holds directly

Reading joins the characters that stand next to each other in an element, however they are written
and whatever comments stand between them, so that no two runs of text are neighbours (`Joined`,
`read_joined`). So the text in front of the first part of an element that is no text is one run, or
there is none (`Element.leadingText?_getD`). -/

namespace ItemCatalog.Xml

/-- A part is a run of text. -/
def Node.isText : Node → Bool
  | .text _ => true
  | _ => false

/-- The characters of a part that is a run of text. -/
def Node.ownChars : Node → List Char
  | .text s => s.toList
  | _ => []

/-- **The characters that are written directly** in an element of some parts, in their order. -/
def directChars (parts : List Node) : List Char :=
  parts.flatMap Node.ownChars

theorem directChars_append (parts more : List Node) :
    directChars (parts ++ more) = directChars parts ++ directChars more :=
  List.flatMap_append

/-! ### What reading adds -/

section Reading

variable {d : Declarations} {place : Place} {fuel : Nat} {after cs : List Char} {parts : List Node}

/-- **What the parts of an element start with,** one step of reading in front of those that are read
up to the same place. -/
inductive Opens (d : Declarations) (place : Place) (fuel : Nat) (after : List Char) :
    List Node → Prop
  | closed : Opens d place fuel after []
  | run (body : List Char) {parts : List Node} {cs : List Char}
      (h : content d place fuel cs = some (parts, after)) :
      Opens d place fuel after (joinText body parts)
  | instruction {parts : List Node} {cs : List Char}
      (h : content d place fuel cs = some (parts, after)) :
      Opens d place fuel after (.instruction :: parts)
  | reference (n : String) {parts : List Node} {cs : List Char}
      (h : content d place fuel cs = some (parts, after)) :
      Opens d place fuel after (.reference n :: parts)
  | element {e : Element} {parts : List Node} {cs inside : List Char}
      (he : element d place fuel inside = some (e, cs))
      (h : content d place fuel cs = some (parts, after)) :
      Opens d place fuel after (.element e.name e.attributes e.children :: parts)

theorem content_opens (h : content d place (fuel + 1) cs = some (parts, after)) :
    Opens d place fuel after parts := by
  cases cs with
  | nil =>
    unfold content at h
    cases h
    exact .closed
  | cons c cs =>
    unfold content at h
    simp only at h
    split_ifs at h
    · -- A mark: of a closing, a comment, a protected run, an instruction or an element.
      split at h
      · cases h
        exact .closed
      · obtain ⟨_, -, h⟩ := Option.bind_eq_some_iff.mp h
        -- A comment adds a run without characters.
        exact .run [] h
      · obtain ⟨_, -, h⟩ := Option.bind_eq_some_iff.mp h
        obtain ⟨⟨body, _⟩, -, h⟩ := Option.bind_eq_some_iff.mp h
        obtain ⟨⟨more, _⟩, hmore, h⟩ := Option.bind_eq_some_iff.mp h
        simp only at h
        split_ifs at h
        cases h
        exact .run body hmore
      · obtain ⟨_, -, h⟩ := Option.bind_eq_some_iff.mp h
        obtain ⟨⟨more, _⟩, hmore, h⟩ := Option.bind_eq_some_iff.mp h
        cases h
        exact .instruction hmore
      · obtain ⟨⟨e, _⟩, he, h⟩ := Option.bind_eq_some_iff.mp h
        obtain ⟨⟨more, _⟩, hmore, h⟩ := Option.bind_eq_some_iff.mp h
        cases h
        exact .element he hmore
    · obtain ⟨⟨r, _⟩, -, h⟩ := Option.bind_eq_some_iff.mp h
      obtain ⟨⟨more, _⟩, hmore, h⟩ := Option.bind_eq_some_iff.mp h
      cases r with
      | char x =>
        cases h
        exact .run [x] hmore
      | entity n =>
        simp only at h
        split_ifs at h
        cases h
        exact .reference n hmore
    · obtain ⟨⟨more, _⟩, hmore, h⟩ := Option.bind_eq_some_iff.mp h
      cases h
      exact .run _ hmore

/-- The parts of an element are read in its inside. -/
theorem element_children {rest : List Char} {e : Element}
    (h : element d place (fuel + 1) cs = some (e, rest)) :
    e.children = [] ∨
      ∃ inner inside after, content d inner fuel inside = some (e.children, after) := by
  unfold element at h
  split_ifs at h
  obtain ⟨⟨n, _⟩, -, h⟩ := Option.bind_eq_some_iff.mp h
  obtain ⟨⟨given, isEmpty, _⟩, -, h⟩ := Option.bind_eq_some_iff.mp h
  obtain ⟨⟨scope, expanded, attrs⟩, -, h⟩ := Option.bind_eq_some_iff.mp h
  simp only at h
  split_ifs at h
  · cases h
    exact .inl rfl
  · obtain ⟨⟨parts, _⟩, hparts, h⟩ := Option.bind_eq_some_iff.mp h
    obtain ⟨_, -, h⟩ := Option.bind_eq_some_iff.mp h
    obtain ⟨_, -, h⟩ := Option.bind_eq_some_iff.mp h
    obtain ⟨_, -, h⟩ := Option.bind_eq_some_iff.mp h
    cases h
    exact .inr ⟨_, _, _, hparts⟩

/-- The root is read as an element. -/
theorem read_element {text : String} {root : Element} (h : read text = some root) :
    ∃ d place fuel cs rest, element d place fuel cs = some (root, rest) := by
  obtain ⟨⟨first, _⟩, -, h⟩ := Option.bind_eq_some_iff.mp h
  obtain ⟨cs, -, h⟩ := Option.bind_eq_some_iff.mp h
  simp only at h
  split at h
  all_goals
    obtain ⟨⟨d, _⟩, -, h⟩ := Option.bind_eq_some_iff.mp h
    obtain ⟨_, -, h⟩ := Option.bind_eq_some_iff.mp h
    obtain ⟨_, -, h⟩ := Option.bind_eq_some_iff.mp h
    obtain ⟨⟨e, _⟩, he, h⟩ := Option.bind_eq_some_iff.mp h
    obtain ⟨_, -, h⟩ := Option.bind_eq_some_iff.mp h
    split_ifs at h
    cases h
    exact ⟨_, _, _, _, _, he⟩

end Reading

/-! ### Joined runs -/

/-- **No two runs of text are neighbours,** neither among some parts nor anywhere below them. -/
inductive Joined : List Node → Prop
  | nil : Joined []
  | text (s : String) {rest : List Node} (hnext : rest.head?.all (!·.isText) = true)
      (hrest : Joined rest) : Joined (.text s :: rest)
  | element (n : Name) (attributes : List (Name × String)) {children rest : List Node}
      (hchildren : Joined children) (hrest : Joined rest) :
      Joined (.element n attributes children :: rest)
  | instruction {rest : List Node} (hrest : Joined rest) : Joined (.instruction :: rest)
  | reference (n : String) {rest : List Node} (hrest : Joined rest) : Joined (.reference n :: rest)

theorem Joined.joinText {parts : List Node} (h : Joined parts) (cs : List Char) :
    Joined (joinText cs parts) := by
  unfold Xml.joinText
  split_ifs
  · exact h
  · cases h with
    | nil => exact .text _ rfl .nil
    | text s hnext hrest => exact .text _ hnext hrest
    | element n attributes hchildren hrest =>
      exact .text _ rfl (.element n attributes hchildren hrest)
    | instruction hrest => exact .text _ rfl (.instruction hrest)
    | reference n hrest => exact .text _ rfl (.reference n hrest)

/-- **Reading joins runs of text,** by induction on the fuel. -/
theorem content_element_joined (d : Declarations) (fuel : Nat) :
    (∀ place cs parts after, content d place fuel cs = some (parts, after) → Joined parts) ∧
    ∀ place cs e rest, element d place fuel cs = some (e, rest) → Joined e.children := by
  induction fuel with
  | zero =>
    refine ⟨fun place cs parts after h => ?_, fun place cs e rest h => ?_⟩
    · rw [content] at h
      cases h
    · rw [element] at h
      cases h
  | succ fuel ih =>
    obtain ⟨ihcontent, ihelement⟩ := ih
    refine ⟨fun place cs parts after h => ?_, fun place cs e rest h => ?_⟩
    · cases content_opens h with
      | closed => exact .nil
      | run body hmore => exact (ihcontent _ _ _ _ hmore).joinText body
      | instruction hmore => exact .instruction (ihcontent _ _ _ _ hmore)
      | reference n hmore => exact .reference n (ihcontent _ _ _ _ hmore)
      | element he hmore => exact .element _ _ (ihelement _ _ _ _ he) (ihcontent _ _ _ _ hmore)
    · rcases element_children h with hnone | ⟨_, _, _, hinside⟩
      · rw [hnone]
        exact .nil
      · exact ihcontent _ _ _ _ hinside

theorem read_joined {text : String} {root : Element} (h : read text = some root) :
    Joined root.children := by
  obtain ⟨d, place, fuel, cs, rest, he⟩ := read_element h
  exact (content_element_joined d fuel).2 _ _ _ _ he

theorem Joined.children {parts : List Node} (h : Joined parts) {part : Node}
    (hpart : part ∈ parts) {e : Element} (he : part.asElement? = some e) : Joined e.children := by
  induction h with
  | nil => cases hpart
  | text _ _ _ ih | instruction _ ih | reference _ _ ih =>
    rcases List.mem_cons.mp hpart with rfl | hpart
    · cases he
    · exact ih hpart
  | element n attributes hchildren _ _ ih =>
    rcases List.mem_cons.mp hpart with rfl | hpart
    · cases he
      exact hchildren
    · exact ih hpart

theorem Joined.child {e c : Element} (h : Joined e.children) {n : String}
    (hc : e.child? n = some c) : Joined c.children := by
  obtain ⟨part, hpart, hc⟩ := List.mem_filterMap.mp (List.mem_of_find?_eq_some hc)
  exact h.children hpart hc

/-- **The leading text** is all that stands in front of the first part that is no text. -/
theorem Element.leadingText?_getD {e : Element} (h : Joined e.children) :
    (e.leadingText?.getD "").toList = directChars (e.children.takeWhile Node.isText) := by
  obtain ⟨n, attributes, children⟩ := e
  cases h with
  | nil => rfl
  | @text s rest hnext _ =>
    have hrun : (Node.text s :: rest).takeWhile Node.isText = [.text s] := by
      cases rest with
      | nil => rfl
      | cons next rest =>
        have hnext : next.isText = false := by simpa using hnext
        rw [List.takeWhile_cons_of_pos rfl,
          List.takeWhile_cons_of_neg (Bool.eq_false_iff.mp hnext)]
    rw [hrun]
    exact (List.append_nil _).symm
  | element => rfl
  | instruction => rfl
  | reference => rfl

end ItemCatalog.Xml
