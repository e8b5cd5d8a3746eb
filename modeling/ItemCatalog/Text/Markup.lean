import ItemCatalog.Text.Blank
import ItemCatalog.Text.Case

/-! # Marked texts: styles between the characters

A tag in square brackets starts with a small letter or one of `#`, `/` and `@`, and opens a style,
or closes one after a slash: the last that was opened, or the one that is named. A backslash before
a tag makes plain text of it. Styles with the same meaning have the same name, whatever way they are
written. What a reader sees is the text without its tags. -/

namespace ItemCatalog.Text.Markup

/-- What is wrong with the tags of a text: one closes a style that is not open, or the last style
where none is open. -/
inductive Fault where
  | unopened (tag : String) (place : Nat)
  | nothingOpen (place : Nat)
deriving DecidableEq, Repr

/-- The wording of a fault. -/
def Fault.message : Fault → String
  | .unopened tag n => s!"closing tag '[{tag}]' at position {n} doesn't match any open tag"
  | .nothingOpen n => s!"closing tag '[/]' at position {n} has nothing to close"

/-! ### Names of styles -/

/-- The attributes of styles, with their other names. -/
def attributes : List (String × List String) :=
  [("bold", ["b"]), ("dim", ["d"]), ("italic", ["i"]), ("underline", ["u"]), ("blink", []),
   ("blink2", []), ("reverse", ["r"]), ("conceal", ["c"]), ("strike", ["s"]),
   ("underline2", ["uu"]), ("frame", []), ("encircle", []), ("overline", ["o"])]

/-- The attribute of a word. -/
def attributeOf? (word : String) : Option String :=
  (attributes.find? fun a => a.1 == word || a.2.contains word).map Prod.fst

/-- Whether a word can be a colour. -/
def isColor (word : String) : Bool :=
  !word.isEmpty && word.toList.all fun c =>
    c.isDigit || ('a' ≤ c && c ≤ 'z') || ['_', '#', '(', ')', ','].contains c

/-- A style: the attributes that are switched, and whether on, the colours of letters and ground,
and the address it leads to. -/
structure Style where
  switched : List (String × Bool) := []
  color : Option String := none
  ground : Option String := none
  link : Option String := none

/-- The style of words after those that were read. -/
def readStyle (s : Style) : List String → Option Style
  | [] => some s
  | w :: ws =>
    let word := lower w
    match word, ws with
    | "on", g :: ws => if isColor (lower g) then readStyle { s with ground := lower g } ws else none
    | "on", [] => none
    | "not", a :: ws =>
      match attributeOf? a with
      | some a => readStyle { s with switched := (a, false) :: s.switched } ws
      | none => none
    | "not", [] => none
    | "link", l :: ws => readStyle { s with link := l } ws
    | "link", [] => none
    | word, ws =>
      match attributeOf? word with
      | some a => readStyle { s with switched := (a, true) :: s.switched } ws
      | none => if isColor word then readStyle { s with color := word } ws else none

/-- The words that a style is known by. -/
def Style.words (s : Style) : List String :=
  attributes.filterMap (fun a => (s.switched.lookup a.1).map fun on =>
      if on then a.1 else "not " ++ a.1)
    ++ s.color.toList ++ (s.ground.map ("on " ++ ·)).toList ++ (s.link.map ("link " ++ ·)).toList

/-- The words of a text. -/
def words (s : String) : List String :=
  ((s.toList.splitOnP isBlank).filter fun w => !w.isEmpty).map String.ofList

/-- **The name** that a style is known by. -/
def styleName (s : String) : String :=
  if strip s = "none" then "none"
  else match readStyle {} (words s) with
    | some style => if style.words.isEmpty then "none" else " ".intercalate style.words
    | none => lower (strip s)

/-! ### Tags -/

/-- Whether a tag can start with a character. -/
def startsTag (c : Char) : Bool :=
  ('a' ≤ c && c ≤ 'z') || c == '#' || c == '/' || c == '@'

/-- The tag at the start of a text: the count of backslashes before it, what stands in its brackets,
and the rest. -/
def tagAt? (cs : List Char) : Option (Nat × List Char × List Char) :=
  let slashes := (cs.takeWhile (· == '\\')).length
  match cs.drop slashes with
  | '[' :: c :: rest =>
    let inside := rest.takeWhile fun d => d != ']' && d != '['
    match rest.drop inside.length with
    | ']' :: rest => if startsTag c then some (slashes, c :: inside, rest) else none
    | _ => none
  | _ => none

/-- A part of a marked text: plain text, or a tag at a place. -/
inductive Part where
  | plain (cs : List Char)
  | tag (text : List Char) (place : Nat)

/-- The plain part of characters in reverse order. -/
def plainPart (cs : List Char) : List Part :=
  if cs.isEmpty then [] else [.plain cs.reverse]

/-- The parts of characters from a place on, in at most so many steps; `before` are the plain ones
before them, in reverse order. -/
def parts : Nat → Nat → List Char → List Char → List Part
  | 0, _, before, cs => plainPart (cs.reverse ++ before)
  | _ + 1, _, before, [] => plainPart before
  | n + 1, place, before, c :: cs =>
    match tagAt? (c :: cs) with
    | none => parts n (place + 1) (c :: before) cs
    | some (slashes, text, rest) =>
      let whole := '[' :: text ++ [']']
      let next := place + slashes + whole.length
      let kept := Part.plain (List.replicate (slashes / 2) '\\')
      let shown := if slashes % 2 = 1 then Part.plain whole
        else .tag text (place + slashes / 2 * 2)
      plainPart before ++ kept :: shown :: parts n next [] rest

/-- Plain characters without the backslash before an opening bracket. -/
def unescape : List Char → List Char
  | '\\' :: '[' :: cs => '[' :: unescape cs
  | c :: cs => c :: unescape cs
  | [] => []

/-- The list without its first element that is equal to one, if there is one. -/
def eraseFirst? (name : String) : List String → Option (List String)
  | [] => none
  | s :: rest => if s = name then some rest else (eraseFirst? name rest).map (s :: ·)

/-- The styles that are open after a tag, the last one first. -/
def openAfter (styles : List String) (text : List Char) (place : Nat) :
    Except Fault (List String) :=
  let name := text.takeWhile (· != '=')
  match name with
  | '/' :: closed =>
    let closed := strip (String.ofList closed)
    if closed.isEmpty then
      match styles with
      | _ :: rest => .ok rest
      | [] => .error (.nothingOpen place)
    else match eraseFirst? (styleName closed) styles with
      | some rest => .ok rest
      | none => .error (.unopened (String.ofList text) place)
  | name => .ok (styleName (String.ofList name) :: styles)

/-- The characters that are seen of parts, after the styles that are open. -/
def seen (styles : List String) : List Part → Except Fault (List Char)
  | [] => .ok []
  | .plain cs :: rest => do return unescape cs ++ (← seen styles rest)
  | .tag text place :: rest => do seen (← openAfter styles text place) rest

/-- Whether a character moves the cursor and is never shown. -/
def isControl (c : Char) : Bool :=
  [7, 8, 11, 12, 13].contains c.toNat

/-- The characters with blanks up to the next stop, every eight columns, for tabs. -/
def expandTabs (column : Nat) : List Char → List Char
  | [] => []
  | '\n' :: cs => '\n' :: expandTabs 0 cs
  | '\t' :: cs =>
    let n := 8 - column % 8
    List.replicate n ' ' ++ expandTabs (column + n) cs
  | c :: cs => c :: expandTabs (column + 1) cs

/-- **What a reader sees** of a marked text. -/
def plainText (s : String) : Except Fault String := do
  let cs := s.toList
  let shown ← seen [] (parts (cs.length + 1) 0 [] cs)
  return String.ofList (expandTabs 0 (shown.filter fun c => !isControl c))

end ItemCatalog.Text.Markup
