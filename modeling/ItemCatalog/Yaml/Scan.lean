import ItemCatalog.Yaml.Scalar

/-! # Scanning: from characters to tokens

The tokens of a document are found one after the other. A block opens where a mark stands deeper
than the block around it and closes where a line starts less deep. A text in front of a colon is a
key; as the colon comes later, every place where a key may start is remembered until its line ends,
and the mark of the key is put there afterwards. If the scan fails, the tokens that could still be
used before the failure are kept. -/

namespace ItemCatalog.Yaml

/-- A place where a key may start: the number of the token in front of which it would, whether
nothing but a key can start there, and where that is. -/
structure SimpleKey where
  token : Nat
  required : Bool
  index : Nat
  line : Nat
  column : Nat
deriving Repr, Inhabited

/-- The state of a scan: the place up to which tokens are found, the tokens, the count of brackets
and braces that are open, the columns of the innermost block and of those around it, whether a key
may start at the next token, and the places where one may, by the count of open brackets. -/
structure Scanner where
  cursor : Cursor
  tokens : Array Token := #[]
  flow : Nat := 0
  indent : Int := -1
  indents : List Int := []
  keyAllowed : Bool := true
  keys : List (Nat × SimpleKey) := []
deriving Inhabited

namespace Scanner

/-- The scan with one more token. -/
def push (s : Scanner) (t : Token) : Scanner :=
  { s with tokens := s.tokens.push t }

/-- The scan with a token put in front of the token `n`. -/
def insert (s : Scanner) (n : Nat) (t : Token) : Scanner :=
  { s with tokens := s.tokens.extract 0 n ++ #[t] ++ s.tokens.extract n s.tokens.size }

/-- The scan `n` characters on. -/
def skip (s : Scanner) (n : Nat) : Scanner :=
  { s with cursor := s.cursor.skip n }

/-- The scan with a choice whether a key may come next. -/
def allowKey (s : Scanner) (allowed : Bool) : Scanner :=
  { s with keyAllowed := allowed }

/-! ### Places of keys -/

/-- The scan without the place for a key at the current depth; a required key may not be missed. -/
def dropKey (s : Scanner) : Except Fault Scanner :=
  match s.keys.lookup s.flow with
  | some k =>
    if k.required then .error .malformed
    else .ok { s with keys := s.keys.filter fun e => e.1 != s.flow }
  | none => .ok s

/-- The scan with this place remembered for a key. -/
def saveKey (s : Scanner) : Except Fault Scanner :=
  if s.keyAllowed then do
    let required := s.flow == 0 && s.indent == s.cursor.column
    let s ← s.dropKey
    let key : SimpleKey :=
      ⟨s.tokens.size, required, s.cursor.index, s.cursor.line, s.cursor.column⟩
    return { s with keys := (s.flow, key) :: s.keys }
  else .ok s

/-- Whether a place can no longer start a key. -/
def isStale (s : Scanner) (k : SimpleKey) : Bool :=
  k.line != s.cursor.line || 1024 < s.cursor.index - k.index

/-- The scan without the places that can no longer start a key. -/
def dropStale (s : Scanner) : Except Fault Scanner :=
  if s.keys.any fun e => s.isStale e.2 && e.2.required then .error .malformed
  else .ok { s with keys := s.keys.filter fun e => !s.isStale e.2 }

/-! ### Blocks -/

/-- The scan with all blocks closed that are deeper than a column. -/
def closeBlocks (column : Int) : List Int → Scanner → Scanner
  | [], s => s
  | outer :: rest, s =>
    if column < s.indent then
      closeBlocks column rest { s.push .blockEnd with indent := outer, indents := rest }
    else s

/-- `closeBlocks`, unless a bracket is open. -/
def unwind (column : Int) (s : Scanner) : Scanner :=
  if s.flow = 0 then closeBlocks column s.indents s else s

/-- The scan with a block opened at a column in front of the token `n`, if it is deeper. -/
def openBlock (column : Int) (n : Nat) (t : Token) (s : Scanner) : Scanner :=
  if s.indent < column then
    { s.insert n t with indent := column, indents := s.indent :: s.indents }
  else s

/-! ### Single tokens -/

/-- The place of the next token, and whether a line ended on the way. -/
def nextToken : Nat → Bool → Cursor → Bool × Cursor
  | 0, ended, c => (ended, c)
  | fuel + 1, ended, c =>
    match (skipComment (c.skipWhile (· == ' '))).lineBreak with
    | (some _, c) => nextToken fuel true c
    | (none, c) => (ended, c)

/-- The scan at the next token. -/
def toNextToken (s : Scanner) : Scanner :=
  let c := if s.cursor.index = 0 && s.cursor.holds '\ufeff' then s.cursor.next else s.cursor
  let (ended, c) := nextToken (c.rest.length + 1) false c
  { s with cursor := c, keyAllowed := s.keyAllowed || (ended && s.flow == 0) }

/-- The end of the text. -/
def streamEnd (s : Scanner) : Except Fault Scanner := do
  let s ← (s.unwind (-1)).dropKey
  return { s.push .streamEnd with keyAllowed := false, keys := [] }

/-- The mark of the start or end of a document. -/
def documentMark (t : Token) (s : Scanner) : Except Fault Scanner := do
  let s ← (s.unwind (-1)).dropKey
  return ((s.allowKey false).skip 3).push t

/-- An opening bracket. -/
def openFlow (t : Token) (s : Scanner) : Except Fault Scanner := do
  let s ← s.saveKey
  return ({ s with flow := s.flow + 1, keyAllowed := true }.skip 1).push t

/-- A closing bracket. -/
def closeFlow (t : Token) (s : Scanner) : Except Fault Scanner := do
  let s ← s.dropKey
  return ({ s with flow := s.flow - 1, keyAllowed := false }.skip 1).push t

/-- A comma. -/
def flowEntry (s : Scanner) : Except Fault Scanner := do
  let s ← (s.allowKey true).dropKey
  return (s.skip 1).push .flowEntry

/-- The scan in a block that a mark at this place belongs to. -/
def inBlock (t : Token) (s : Scanner) : Except Fault Scanner :=
  if s.flow ≠ 0 then .ok s
  else if s.keyAllowed then .ok (s.openBlock s.cursor.column s.tokens.size t)
  else .error .malformed

/-- The dash of an element. -/
def blockEntry (s : Scanner) : Except Fault Scanner := do
  let s ← s.inBlock .blockSequenceStart
  let s ← (s.allowKey true).dropKey
  return (s.skip 1).push .blockEntry

/-- The question mark of a key. -/
def explicitKey (s : Scanner) : Except Fault Scanner := do
  let s ← s.inBlock .blockMappingStart
  let s ← (s.allowKey (s.flow == 0)).dropKey
  return (s.skip 1).push .key

/-- The colon of a value: after a remembered key, or on its own. -/
def valueMark (s : Scanner) : Except Fault Scanner := do
  match s.keys.lookup s.flow with
  | some k =>
    let s := { s with keys := s.keys.filter fun e => e.1 != s.flow }
    let s := s.insert k.token .key
    let s := if s.flow = 0 then s.openBlock k.column k.token .blockMappingStart else s
    return ((s.allowKey false).skip 1).push .value
  | none =>
    let s ← s.inBlock .blockMappingStart
    let s ← (s.allowKey (s.flow == 0)).dropKey
    return (s.skip 1).push .value

/-- A token that can start a key, read from the place on. -/
def keyToken (read : Cursor → Except Fault (Token × Cursor)) (s : Scanner) :
    Except Fault Scanner := do
  let s ← s.saveKey
  let (t, c) ← read s.cursor
  return { s.push t with cursor := c, keyAllowed := false }

end Scanner

/-! ### Names and tags -/

/-- Whether a character can be part of the name of an anchor or a handle. -/
def isNameChar (c : Char) : Bool :=
  c.isAlphanum || c == '-' || c == '_'

/-- The name of an anchor or alias. -/
def nameToken (make : String → Token) (c : Cursor) : Except Fault (Token × Cursor) :=
  let (name, c) := c.next.takeWhile isNameChar
  let ends := fun x => isSeparator x || "?:,]\x7d%@\x60".toList.contains x
  if !name.isEmpty && endOr ends c.peek? then .ok (make (String.ofList name), c)
  else .error .malformed

/-- Whether a character can be part of a tag. -/
def isTagChar (c : Char) : Bool :=
  c.isAlphanum || "-;/?:@&=+$,_.!~*'()[]%".toList.contains c

/-- The bytes that tag characters write, with percent signs resolved. -/
def tagBytes : List Char → Option (List UInt8)
  | [] => some []
  | '%' :: a :: b :: rest => do
    let n ← hexNumber? [a, b]
    return UInt8.ofNat n :: (← tagBytes rest)
  | '%' :: _ => none
  | c :: rest => do return UInt8.ofNat c.toNat :: (← tagBytes rest)

/-- The rest of a tag. -/
def tagSuffix (c : Cursor) : Except Fault (String × Cursor) :=
  let (cs, c) := c.takeWhile isTagChar
  match tagBytes cs with
  | some bytes =>
    if cs.isEmpty then .error .malformed
    else match String.fromUTF8? ⟨bytes.toArray⟩ with
      | some s => .ok (s, c)
      | none => .error .malformed
  | none => .error .malformed

/-- The handle of a tag, between its two exclamation marks; a space may follow a single one. -/
def tagHandle (c : Cursor) : Except Fault (String × Cursor) :=
  if !c.holds '!' then .error .malformed
  else if c.next.holds ' ' then .ok ("!", c.next)
  else
    let (name, after) := c.next.takeWhile isNameChar
    if after.holds '!' then .ok (String.ofList ('!' :: name ++ ['!']), after.next)
    else .error .malformed

/-- A tag in front of a node. -/
def tagToken (c : Cursor) : Except Fault (Token × Cursor) := do
  let (t, c) ← match c.ahead? 1 with
    | some '<' => do
      let (suffix, c) ← tagSuffix (c.skip 2)
      if c.holds '>' then .ok (Token.tag none suffix, c.next) else .error .malformed
    | after =>
      if endOr isSeparator after then .ok (Token.tag none "!", c.next)
      else if (c.next.rest.takeWhile fun x => !isSpaceOrBreak x).contains '!' then do
        let (handle, c) ← tagHandle c
        let (suffix, c) ← tagSuffix c
        .ok (Token.tag (some handle) suffix, c)
      else do
        let (suffix, c) ← tagSuffix c.next
        .ok (Token.tag (some "!") suffix, c)
  if endOr isSpaceOrBreak c.peek? then return (t, c) else .error .malformed

/-! ### Directives -/

/-- A number of a version. -/
def versionNumber (c : Cursor) : Except Fault (Nat × Cursor) :=
  let (ds, c) := c.takeWhile Char.isDigit
  if ds.isEmpty then .error .malformed
  else .ok (ofDigits 10 (ds.map fun d => d.toNat - 48), c)
where
  /-- The value of digits in a base. -/
  ofDigits (base : Nat) (ds : List Nat) : Nat := ds.foldl (fun n d => base * n + d) 0

/-- The two numbers of a version. -/
def versionValue (c : Cursor) : Except Fault (Directive × Cursor) := do
  let (major, c) ← versionNumber (c.skipWhile (· == ' '))
  if !c.holds '.' then .error .malformed
  else do
    let (minor, c) ← versionNumber c.next
    if endOr isSpaceOrBreak c.peek? then return (.version major minor, c)
    else .error .malformed

/-- The handle and the start of tags that it stands for. -/
def handleValue (c : Cursor) : Except Fault (Directive × Cursor) := do
  let (handle, c) ← tagHandle (c.skipWhile (· == ' '))
  if !c.holds ' ' then .error .malformed
  else do
    let (start, c) ← tagSuffix (c.skipWhile (· == ' '))
    if endOr isSpaceOrBreak c.peek? then return (.handle handle start, c)
    else .error .malformed

/-- A line of instructions, from its percent sign on. -/
def directiveLine (c : Cursor) : Except Fault (Token × Cursor) := do
  let (name, c) := c.next.takeWhile isNameChar
  if name.isEmpty || !endOr isSpaceOrBreak c.peek? then .error .malformed
  else do
    let (d, c) ← match String.ofList name with
      | "YAML" => versionValue c
      | "TAG" => handleValue c
      | _ => .ok (.other, c.skipWhile (!isBreak ·))
    return (.directive d, ← ignoredLine c)

/-! ### The scan -/

namespace Scanner

/-- Whether a plain scalar starts at a place. -/
def startsPlain (s : Scanner) (x : Char) : Bool :=
  let special := "-?:,[]\x7b\x7d#&*!|>'\"%@\x60".toList
  (!isSeparator x && !special.contains x) ||
    (!endOr isSeparator (s.cursor.ahead? 1) &&
      (x == '-' || (s.flow == 0 && (x == '?' || x == ':'))))

/-- A block scalar. -/
def block (folded : Bool) (s : Scanner) : Except Fault Scanner := do
  let s ← (s.allowKey true).dropKey
  let (text, c) ← blockScalar folded s.indent s.cursor
  return { s.push (.scalar text false) with cursor := c }

/-- A quoted scalar. -/
def quoted (double : Bool) (s : Scanner) : Except Fault Scanner :=
  s.keyToken fun c => do
    let (text, c) ← quotedScalar double c
    return (.scalar text false, c)

/-- A plain scalar; a key may follow if a line ended after it. -/
def plain (s : Scanner) : Except Fault Scanner := do
  let s ← s.saveKey
  let (text, ended, c) := plainScalar (s.flow != 0) s.indent s.cursor
  return { s.push (.scalar text true) with cursor := c, keyAllowed := ended }

/-- The scan after the token that starts with a character at the current place. -/
def token (s : Scanner) (x : Char) : Except Fault Scanner :=
  let c := s.cursor
  let lone := endOr isSeparator (c.ahead? 1)
  if x == '%' && c.column == 0 then do
    let s ← (s.unwind (-1)).dropKey
    let (t, c) ← directiveLine s.cursor
    return { s.push t with cursor := c, keyAllowed := false }
  else if x == '-' && c.column == 0 && c.atMarker '-' then s.documentMark .documentStart
  else if x == '.' && c.column == 0 && c.atMarker '.' then s.documentMark .documentEnd
  else if x == '[' then s.openFlow .flowSequenceStart
  else if x == '\x7b' then s.openFlow .flowMappingStart
  else if x == ']' then s.closeFlow .flowSequenceEnd
  else if x == '\x7d' then s.closeFlow .flowMappingEnd
  else if x == ',' then s.flowEntry
  else if x == '-' && lone then s.blockEntry
  else if x == '?' && (s.flow != 0 || lone) then s.explicitKey
  else if x == ':' && (s.flow != 0 || lone) then s.valueMark
  else if x == '*' then s.keyToken (nameToken .alias)
  else if x == '&' then s.keyToken (nameToken .anchor)
  else if x == '!' then s.keyToken tagToken
  else if x == '|' && s.flow == 0 then s.block false
  else if x == '>' && s.flow == 0 then s.block true
  else if x == '\'' then s.quoted false
  else if x == '"' then s.quoted true
  else if s.startsPlain x then s.plain
  else .error .malformed

/-- One step of the scan: the next token, or the end of the text. -/
def step (s : Scanner) : Except Fault Scanner := do
  let s ← s.toNextToken.dropStale
  let s := s.unwind s.cursor.column
  match s.cursor.peek? with
  | none => s.streamEnd
  | some x => s.token x

/-- The count of tokens that can be used before the next step. -/
def usable (s : Scanner) : Nat :=
  match s.dropStale with
  | .ok s => s.keys.foldl (fun n e => min n e.2.token) s.tokens.size
  | .error _ => s.tokens.size

end Scanner

/-- The tokens of a document, and the fault that stands after the last one. -/
structure Scan where
  tokens : List Token
  fault : Fault

namespace Scanner

/-- The scan up to its end. -/
def run : Nat → Scanner → Scan
  | 0, s => ⟨s.tokens.toList, .malformed⟩
  | fuel + 1, s =>
    match s.step with
    | .error e => ⟨s.tokens.toList.take s.usable, e⟩
    | .ok s =>
      if s.tokens.back? == some .streamEnd then ⟨s.tokens.toList, .malformed⟩ else run fuel s

end Scanner

/-- **The tokens** of a text. -/
def scan (cs : List Char) : Scan :=
  if cs.all isAllowed then (Scanner.mk ⟨cs, 0, 0, 0⟩ #[] 0 (-1) [] true []).run (cs.length + 2)
  else ⟨[], .malformed⟩

end ItemCatalog.Yaml
