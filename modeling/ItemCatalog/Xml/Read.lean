import ItemCatalog.Text.Charset
import ItemCatalog.Text.Split
import ItemCatalog.Xml.Declared
import ItemCatalog.Xml.Tree

/-! # Reading: from a legacy text to its tree

A text starts with a line about its version and character set, if it wants; after comments,
instructions and declarations follows one root element, and after that only comments and
instructions. Names are expanded while elements are read, so the tree shows no short names. A text
that declares a character set is taken for the bytes of its variable-length form, read in that set.
One that declares a set without a table here is refused. Elements may be nested to a depth of
257. -/

namespace ItemCatalog.Xml

open Text

/-! ### Names and spaces -/

/-- The space that all names with the short name `xml` belong to. -/
def xmlSpace : String := "http://www.w3.org/XML/1998/namespace"

/-- The space of the attributes that declare short names. -/
def xmlnsSpace : String := "http://www.w3.org/2000/xmlns/"

/-- The addresses of short names; the empty name stands for names without one. -/
abbrev Scope := List (String × String)

/-- A name as its short name, if it has one, and the rest. -/
def splitName (n : String) : Option (Option String × String) :=
  match cut ':' n with
  | [l] => some (none, l)
  | [p, l] =>
    if p.isEmpty || !l.toList.head?.any isNameStart then none else some (some p, l)
  | _ => none

/-- Whether a declaration of a short name is allowed. -/
def allowsScope (short uri : String) : Bool :=
  if short = "xml" then uri == xmlSpace
  else short != "xmlns" && uri != xmlSpace && uri != xmlnsSpace && (short.isEmpty || uri != "") &&
    Uri.isUri uri.toList

/-- The short names that attributes declare. -/
def declaredScope (attributes : List (String × String)) : Option Scope :=
  (attributes.filterMap fun (n, v) =>
    if n = "xmlns" then some ("", v)
    else match cut ':' n with
      | ["xmlns", p] => some (p, v)
      | _ => none).mapM fun e => if allowsScope e.1 e.2 then some e else none

/-- Whether an attribute declares a short name. -/
def declaresScope (n : String) : Bool :=
  n == "xmlns" || n.startsWith "xmlns:"

/-- The address of a short name. -/
def spaceOf (scope : Scope) (short : String) : Option String :=
  if short = "xml" then some xmlSpace else scope.lookup short

/-- The expanded name of an element. -/
def elementName (scope : Scope) (n : String) : Option Name := do
  let (short, l) ← splitName n
  match short with
  | none => return ⟨(scope.lookup "").filter (· ≠ ""), l⟩
  | some p => return ⟨some (← spaceOf scope p), l⟩

/-- The expanded name of an attribute. -/
def attributeName (scope : Scope) (n : String) : Option Name := do
  let (short, l) ← splitName n
  match short with
  | none => return ⟨none, l⟩
  | some p => return ⟨some (← spaceOf scope p), l⟩

/-- Whether a text is a name without a colon, apart from separators around it. -/
def isPlainName (s : String) : Bool :=
  match name (skipSpace s.toList) with
  | some (n, rest) => !n.contains ':' && (skipSpace rest).isEmpty
  | none => false

/-- The name of the attribute that is always the identity of its element. -/
def identityName : Name :=
  ⟨some xmlSpace, "id"⟩

/-! ### Elements -/

/-- The attributes of an element as they are written, and whether the element has no content. -/
def attributes (d : Declarations) : Nat → List Char →
    Option (List (String × String) × Bool × List Char)
  | 0, _ => none
  | fuel + 1, cs =>
    match skipSpace cs with
    | '>' :: rest => some ([], false, rest)
    | '/' :: '>' :: rest => some ([], true, rest)
    | _ => do
      let (n, cs) ← name (← someSpace cs)
      let cs ← after ['='] (skipSpace cs)
      let (v, cs) ← attributeValue d (skipSpace cs)
      let (more, empty, cs) ← attributes d fuel cs
      return ((String.ofList n, String.ofList v) :: more, empty, cs)

/-- The attributes with the declared defaults, and with single spaces where the type wants them. -/
def withRules (d : Declarations) (owner : String) (given : List (String × String)) :
    List (String × String) :=
  let rules := d.rules.filter fun r => r.owner == owner
  let ruled := given.map fun (n, v) =>
    match rules.find? fun r => r.label == n with
    | some r => (n, String.ofList (r.type.normalize v.toList))
    | none => (n, v)
  ruled ++ (rules.filterMap fun r => r.default.map fun v => (r.label, v)).foldl
    (fun acc e =>
      if (given.lookup e.1).isSome || (acc.lookup e.1).isSome then acc else acc ++ [e]) []

/-- The expanded names of an element and its attributes, inside the scope of the element. -/
def expand (d : Declarations) (scope : Scope) (owner : String) (given : List (String × String)) :
    Option (Scope × Name × List (Name × String)) := do
  if !allDistinct (given.map (·.1)) then none
  else do
    let all := withRules d owner given
    let scope := (← declaredScope all) ++ scope
    let n ← elementName scope owner
    let attrs ← (all.filter fun e => !declaresScope e.1).mapM fun (a, v) => do
      return ((← attributeName scope a), v)
    let ids := attrs.filter fun e => e.1 == identityName
    if allDistinct (attrs.map (·.1)) && ids.all fun e => isPlainName e.2 then
      return (scope, n, attrs)
    else none

/-- A run of text in front of the parts that follow it, joined with a text that comes first. -/
def joinText (cs : List Char) (parts : List Node) : List Node :=
  if cs.isEmpty then parts
  else match parts with
    | .text s :: rest => .text (String.ofList cs ++ s) :: rest
    | parts => .text (String.ofList cs) :: parts

/-- The greatest count of elements around an element. -/
def maxDepth : Nat := 256

/-- What surrounds a place in a text: the short names, the count of elements and the entities around
it. -/
structure Place where
  scope : Scope
  depth : Nat
  path : List String

mutual

/-- The parts of an element up to its closing mark, and what stands from there on. -/
def content (d : Declarations) (place : Place) : Nat → List Char → Option (List Node × List Char)
  | 0, _ => none
  | _, [] => some ([], [])
  | fuel + 1, c :: cs =>
    if c = '<' then
      match cs with
      | '/' :: _ => some ([], c :: cs)
      | '!' :: '-' :: '-' :: rest => do content d place fuel (← comment rest)
      | '!' :: rest => do
        let (body, rest) ← upTo "]]>".toList (← afterWord "[CDATA[" rest)
        let (parts, rest) ← content d place fuel rest
        if body.all isChar then return (joinText body parts, rest) else none
      | '?' :: rest => do
        let (parts, rest) ← content d place fuel (← instruction rest)
        return (.instruction :: parts, rest)
      | _ => do
        let (e, rest) ← element d place fuel cs
        let (parts, rest) ← content d place fuel rest
        return (.element e.name e.attributes e.children :: parts, rest)
    else if c = '&' then do
      let (r, rest) ← reference cs
      let (parts, after) ← content d place fuel rest
      match r with
      | .char x => return (joinText [x] parts, after)
      | .entity n =>
        if isReadable d place fuel n then return (.reference n :: parts, after) else none
    else
      let run := (c :: cs).takeWhile fun x => x != '<' && x != '&'
      if run.all isChar && (upTo "]]>".toList run).isNone then do
        let (parts, rest) ← content d place fuel ((c :: cs).drop run.length)
        return (joinText run parts, rest)
      else none

/-- Whether an entity is known and its text, if it has one, is content. -/
def isReadable (d : Declarations) (place : Place) : Nat → String → Bool
  | 0, _ => false
  | fuel + 1, n =>
    match d.entities.lookup n with
    | some (.internal text) =>
      !place.path.contains n &&
        match content d { place with path := n :: place.path } fuel text with
        | some (_, []) => true
        | _ => false
    | some .external => true
    | some .unparsed => false
    | none => d.partly

/-- An element, after the opening of its first mark. -/
def element (d : Declarations) (place : Place) : Nat → List Char → Option (Element × List Char)
  | 0, _ => none
  | fuel + 1, cs =>
    if maxDepth < place.depth then none
    else do
      let (n, cs) ← name cs
      let (given, empty, cs) ← attributes d (cs.length + 1) cs
      let (scope, expanded, attrs) ← expand d place.scope (String.ofList n) given
      if empty then return (⟨expanded, attrs, []⟩, cs)
      else do
        let (parts, cs) ← content d { place with scope := scope, depth := place.depth + 1 } fuel cs
        let cs ← after n (← afterWord "</" cs)
        return (⟨expanded, attrs, parts⟩, ← after ['>'] (skipSpace cs))

end

/-! ### Identities -/

/-- The identities that attributes give to an element of a name. -/
def identitiesOf (d : Declarations) (owner : Name) (attributes : List (Name × String)) :
    List String :=
  (attributes.filter fun e => e.1 == identityName ||
    (e.1.space.isNone && d.identifies owner.localName e.1.localName)).map (·.2)

mutual

/-- The identities of the elements in a part. -/
def Node.identities (d : Declarations) : Node → List String
  | .element n attributes parts => identitiesOf d n attributes ++ identitiesIn d parts
  | _ => []

/-- The identities of the elements in some parts. -/
def identitiesIn (d : Declarations) : List Node → List String
  | [] => []
  | part :: rest => part.identities d ++ identitiesIn d rest

end

/-- Whether no two elements have the same identity. -/
def hasDistinctIdentities (d : Declarations) (root : Element) : Bool :=
  allDistinct (identitiesOf d root.name root.attributes ++ identitiesIn d root.children)

/-! ### Whole texts -/

/-- A setting of the first line. -/
def firstLineSetting (word : String) (cs : List Char) : Option (List Char × List Char) := do
  let cs ← afterWord word (← someSpace cs)
  quotedText (skipSpace (← after ['='] (skipSpace cs)))

/-- A setting of the first line, if it is there, and the characters after it. -/
def optionalSetting (word : String) (cs : List Char) : Option (List Char) × List Char :=
  match firstLineSetting word cs with
  | some (value, rest) => (some value, rest)
  | none => (none, cs)

/-- Whether a text is a version that can be read. -/
def isVersion (v : List Char) : Bool :=
  match v with
  | '1' :: '.' :: ds => ds.all Char.isDigit
  | _ => false

/-- Whether a text can name a character set. -/
def isCharsetLabel (cs : List Char) : Bool :=
  match cs with
  | c :: rest => c.isAlpha && rest.all fun x => x.isAlphanum || x == '.' || x == '_' || x == '-'
  | [] => false

/-- What the first line of a text says: the label of its character set, if there is one, and whether
it stands alone. -/
structure FirstLine where
  charset : Option (List Char) := none
  alone : Bool := false
deriving DecidableEq

/-- What the first line says, if there is one, and what stands after it. -/
def firstLine (cs : List Char) : Option (FirstLine × List Char) :=
  match afterWord "<?xml" cs with
  | none => some ({}, cs)
  | some rest =>
    if !rest.head?.any fun c => isSpace c || c == '?' then some ({}, cs)
    else do
      let (version, rest) ← firstLineSetting "version" rest
      let (charset, rest) := optionalSetting "encoding" rest
      let (word, rest) := optionalSetting "standalone" rest
      let alone := word.getD "no".toList
      let rest ← afterWord "?>" (skipSpace rest)
      if isVersion version && charset.all isCharsetLabel &&
          (alone == "yes".toList || alone == "no".toList) then
        return (⟨charset, alone == "yes".toList⟩, rest)
      else none

/-- The character set of a label in the first line: one that stores a letter of ASCII as its one
byte, by a label that is no nickname. -/
def declaredCharset? (label : String) : Option Charset := do
  let nicknames := ["u8", "utf", "utf-8-sig", "us", "latin", "latin-1", "iso8859"]
  if nicknames.contains (Charset.plainLabel label) then none
  else match ← Charset.ofLabel? label with
    | .utf16 _ | .markedUtf16 | .utf32 _ | .markedUtf32 => none
    | charset => some charset

/-- The characters after separators, comments and instructions. -/
def skipMisc : Nat → List Char → Option (List Char)
  | 0, _ => none
  | fuel + 1, cs =>
    let cs := skipSpace cs
    match afterWord "<!--" cs, afterWord "<?" cs with
    | some rest, _ => do skipMisc fuel (← comment rest)
    | none, some rest => do skipMisc fuel (← instruction rest)
    | none, none => some cs

/-- The root of the characters after the first line. -/
def rootOf (first : FirstLine) (cs : List Char) : Option Element := do
  let size := cs.length + 2
  let cs ← skipMisc size cs
  let (d, cs) ← match afterWord "<!DOCTYPE" cs with
    | some rest => documentType first.alone rest
    | none => some ({ alone := first.alone }, cs)
  let cs ← afterWord "<" (← skipMisc size cs)
  let fuel := (2 * size + 2) * (d.entities.length + 2)
  let (root, rest) ← element d ⟨[], 0, []⟩ fuel cs
  if (← skipMisc size rest).isEmpty && hasDistinctIdentities d root then return root else none

/-- The characters with one character for every line end. -/
def unifyLines : List Char → List Char
  | '\r' :: '\n' :: cs => '\n' :: unifyLines cs
  | '\r' :: cs => '\n' :: unifyLines cs
  | c :: cs => c :: unifyLines cs
  | [] => []

/-- What the first line of a text says, and the characters after it in the character set that it
declares; a text with a byte order mark keeps its characters. -/
def decoded (cs : List Char) : Option (FirstLine × List Char) :=
  match cs with
  | '\ufeff' :: rest => firstLine (unifyLines rest)
  | cs => do
    let (first, rest) ← firstLine (unifyLines cs)
    match first.charset with
    | none => return (first, rest)
    | some label =>
      match ← declaredCharset? (String.ofList label) with
      | .utf8 _ => return (first, rest)
      | charset => do
        let decoded ← (charset.decode (String.ofList cs).toUTF8.toList).toOption
        firstLine (unifyLines decoded)

/-- **The root** of the tree in a text; nothing if the text breaks the rules. -/
def read (text : String) : Option Element := do
  let (first, rest) ← decoded text.toList
  rootOf first rest

end ItemCatalog.Xml
