import ItemCatalog.Yaml.Token

/-! # Scalar texts: blocks, quoted and plain

The text of a scalar is joined from the lines it is written on. A line end inside it counts as a
space, more of them keep all but the first; in a literal block every line end stays, and in a quoted
text escapes stand for characters. -/

namespace ItemCatalog.Yaml

/-! ### Line ends inside a text -/

/-- Line ends folded into one text: a single one is a space, and of more the first is dropped. -/
def foldBreaks (first : Char) (more : List Char) : List Char :=
  if first ≠ '\n' then first :: more else if more.isEmpty then [' '] else more

/-! ### Block scalars -/

/-- What becomes of the line ends after a block. -/
inductive Chomp where
  | strip
  | clip
  | keep
deriving DecidableEq, Repr

/-- The sign of a chomping indicator. -/
def chompOf (c : Char) : Chomp :=
  if c == '+' then .keep else .strip

/-- The depth that a digit gives. -/
def depthOf (c : Char) : Nat :=
  c.toNat - 48

/-- The indicators of a block: what becomes of its last line ends, and its depth if it is given. -/
def blockIndicators (c : Cursor) : Except Fault ((Chomp × Option Nat) × Cursor) :=
  let isSign := fun x => x == '+' || x == '-'
  let (chomp, depth, after) := match c.peek? with
    | some x =>
      if isSign x then
        match c.ahead? 1 with
        | some d => if d.isDigit then (chompOf x, some (depthOf d), c.skip 2)
          else (chompOf x, none, c.next)
        | none => (chompOf x, none, c.next)
      else if x.isDigit then
        match c.ahead? 1 with
        | some s => if isSign s then (chompOf s, some (depthOf x), c.skip 2)
          else (.clip, some (depthOf x), c.next)
        | none => (.clip, some (depthOf x), c.next)
      else (.clip, none, c)
    | none => (.clip, none, c)
  if depth == some 0 then .error .malformed
  else if endOr isSpaceOrBreak after.peek? then .ok ((chomp, depth), after)
  else .error .malformed

/-- The place after a comment, if there is one. -/
def skipComment (c : Cursor) : Cursor :=
  if c.holds '#' then c.skipWhile (!isBreak ·) else c

/-- The place after the rest of a line that holds nothing but a comment. -/
def ignoredLine (c : Cursor) : Except Fault Cursor :=
  let c := skipComment (c.skipWhile (· == ' '))
  if endOr isBreak c.peek? then .ok c.lineBreak.2 else .error .malformed

/-- The empty lines at the start of a block, and the deepest column among them. -/
def leadingBreaks : Nat → Cursor → List Char → Nat → List Char × Nat × Cursor
  | 0, c, breaks, deepest => (breaks.reverse, deepest, c)
  | fuel + 1, c, breaks, deepest =>
    if c.holds ' ' then
      let c := c.next
      leadingBreaks fuel c breaks (max deepest c.column)
    else match c.lineBreak with
      | (some b, c) => leadingBreaks fuel c (b :: breaks) deepest
      | (none, c) => (breaks.reverse, deepest, c)

/-- The place after the spaces up to a column. -/
def skipIndent (indent : Nat) (c : Cursor) : Cursor :=
  c.skip (min (indent - c.column) (c.rest.takeWhile (· == ' ')).length)

/-- The empty lines inside a block, and the place at its indentation. -/
def innerBreaks (indent : Nat) : Nat → Cursor → List Char → List Char × Cursor
  | 0, c, breaks => (breaks.reverse, c)
  | fuel + 1, c, breaks =>
    match (skipIndent indent c).lineBreak with
    | (some b, c) => innerBreaks indent fuel c (b :: breaks)
    | (none, c) => (breaks.reverse, c)

/-- The lines of a block: the text so far, the last line end and the empty lines after it. -/
def blockLines (folded : Bool) (indent : Nat) :
    Nat → Cursor → List Char → List Char → List Char × List Char × List Char × Cursor
  | 0, c, text, breaks => (text, [], breaks, c)
  | fuel + 1, c, text, breaks =>
    if c.column == indent && c.peek?.isSome then
      let blankStart := c.atAny fun x => x == ' ' || x == '\t'
      let (line, c) := c.takeWhile (!isBreak ·)
      let (ending, c) := c.lineBreak
      let text := text ++ breaks ++ line
      let (breaks, c) := innerBreaks indent (c.rest.length + 1) c []
      if c.column == indent && c.peek?.isSome then
        let joint :=
          if folded && ending == some '\n' && !blankStart &&
              !c.atAny (fun x => x == ' ' || x == '\t') then
            if breaks.isEmpty then [' '] else []
          else ending.toList
        blockLines folded indent fuel c (text ++ joint) breaks
      else (text, ending.toList, breaks, c)
    else (text, [], breaks, c)

/-- **A block scalar**, from its indicator on, inside a block at column `indent`. -/
def blockScalar (folded : Bool) (indent : Int) (c : Cursor) : Except Fault (String × Cursor) := do
  let ((chomp, depth), c) ← blockIndicators c.next
  let c ← ignoredLine c
  let least := (max (indent + 1) 1).toNat
  let (breaks, column, c) := match depth with
    | some d =>
      let column := least + d - 1
      let (breaks, c) := innerBreaks column (c.rest.length + 1) c []
      (breaks, column, c)
    | none =>
      let (breaks, deepest, c) := leadingBreaks (c.rest.length + 1) c [] 0
      (breaks, max least deepest, c)
  let (text, ending, breaks, c) := blockLines folded column (c.rest.length + 1) c [] breaks
  let tail := match chomp with
    | .strip => []
    | .clip => ending
    | .keep => ending ++ breaks
  return (String.ofList (text ++ tail), c)

/-! ### Quoted scalars -/

/-- The character of an escape of one letter. -/
def escapeOf? : Char → Option Char
  | '0' => some '\x00'
  | 'a' => some '\x07'
  | 'b' => some '\x08'
  | 't' => some '\t'
  | '\t' => some '\t'
  | 'n' => some '\n'
  | 'v' => some '\x0b'
  | 'f' => some '\x0c'
  | 'r' => some '\r'
  | 'e' => some '\x1b'
  | ' ' => some ' '
  | '"' => some '"'
  | '\\' => some '\\'
  | '/' => some '/'
  | 'N' => some '\x85'
  | '_' => some '\xa0'
  | 'L' => some '\u2028'
  | 'P' => some '\u2029'
  | _ => none

/-- The count of digits of an escape by code point. -/
def escapeWidth? : Char → Option Nat
  | 'x' => some 2
  | 'u' => some 4
  | 'U' => some 8
  | _ => none

/-- The value of a hexadecimal digit. -/
def hexValue? (c : Char) : Option Nat :=
  if c.isDigit then some (c.toNat - 48)
  else if 'a' ≤ c && c ≤ 'f' then some (c.toNat - 87)
  else if 'A' ≤ c && c ≤ 'F' then some (c.toNat - 55)
  else none

/-- The number that hexadecimal digits write. -/
def hexNumber? (ds : List Char) : Option Nat :=
  ds.foldl (fun n d => do return 16 * (← n) + (← hexValue? d)) (some 0)

/-- The value of an escape of `width` digits. -/
def codeEscape? (width : Nat) (c : Cursor) : Except Fault Nat :=
  let ds := c.rest.take width
  if ds.length < width then .error .malformed
  else match hexNumber? ds with
    | some n => if 0x110000 ≤ n then .error .codePoint else .ok n
    | none => .error .malformed

/-- The second half of a character that is written as two escapes. -/
def lowHalf? (c : Cursor) : Option Nat :=
  match c.rest with
  | '\\' :: 'u' :: ds => (hexNumber? (ds.take 4)).filter fun n => 0xdc00 ≤ n && n < 0xe000
  | _ => none

/-- The empty lines inside a quoted text. -/
def quotedBreaks : Nat → Cursor → List Char → Except Fault (List Char × Cursor)
  | 0, c, breaks => .ok (breaks.reverse, c)
  | fuel + 1, c, breaks =>
    if c.atDocumentMarker then .error .malformed
    else match (c.skipWhile fun x => x == ' ' || x == '\t').lineBreak with
      | (some b, c) => quotedBreaks fuel c (b :: breaks)
      | (none, c) => .ok (breaks.reverse, c)

/-- What an escape stands for, from the character after the backslash on. -/
def escape (c : Cursor) : Except Fault (List Char × Cursor) := do
  match c.peek? with
  | none => .error .malformed
  | some x =>
    match escapeOf? x with
    | some y => return ([y], c.next)
    | none =>
      match escapeWidth? x with
      | some width =>
        let n ← codeEscape? width c.next
        let after := c.next.skip width
        match if 0xd800 ≤ n && n < 0xdc00 then lowHalf? after else none with
        | some low =>
          return ([Char.ofNat (0x10000 + (n - 0xd800) * 0x400 + (low - 0xdc00))], after.skip 6)
        | none =>
          return ([if 0xd800 ≤ n && n < 0xe000 then '\ufffd' else Char.ofNat n], after)
      | none =>
        if isBreak x then quotedBreaks (c.rest.length + 1) c.lineBreak.2 [] else .error .malformed

/-- The spaces or line ends between the words of a quoted text. -/
def quotedSpaces (c : Cursor) : Except Fault (List Char × Cursor) := do
  let (spaces, c) := c.takeWhile fun x => x == ' ' || x == '\t'
  match c.peek? with
  | none => .error .malformed
  | some x =>
    if isBreak x then
      let (ending, c) := c.lineBreak
      let (breaks, c) ← quotedBreaks (c.rest.length + 1) c []
      return (foldBreaks (ending.getD '\n') breaks, c)
    else return (spaces, c)

/-- The text of a quoted scalar up to its closing quote. -/
def quotedText (double : Bool) : Nat → Cursor → List Char → Except Fault (List Char × Cursor)
  | 0, _, _ => .error .malformed
  | fuel + 1, c, text =>
    match c.rest with
    | [] => .error .malformed
    | x :: rest =>
      if !double && x == '\'' && rest.head? == some '\'' then
        quotedText double fuel (c.skip 2) (text ++ ['\''])
      else if x == (if double then '"' else '\'') then .ok (text, c.next)
      else if double && x == '\\' then do
        let (part, c) ← escape c.next
        quotedText double fuel c (text ++ part)
      else if isSeparator x then do
        let (part, c) ← quotedSpaces c
        quotedText double fuel c (text ++ part)
      else
        let stop := fun y => y == '\'' || y == '"' || y == '\\' || isSeparator y
        let (part, after) := c.takeWhile (!stop ·)
        if part.isEmpty then quotedText double fuel c.next (text ++ [x])
        else quotedText double fuel after (text ++ part)

/-- **A quoted scalar**, from its opening quote on. -/
def quotedScalar (double : Bool) (c : Cursor) : Except Fault (String × Cursor) := do
  let (text, c) ← quotedText double (c.rest.length + 1) c.next []
  return (String.ofList text, c)

/-! ### Plain scalars -/

/-- Whether a plain text ends in front of a character, given the one after it. -/
def endsPlain (flow : Bool) (x : Char) (after : Option Char) : Bool :=
  isSeparator x ||
    (x == ':' &&
      (endOr isSeparator after || (flow && after.any (",[]\x7b\x7d".toList.contains ·)))) ||
    (flow && ",?[]\x7b\x7d".toList.contains x)

/-- The count of characters up to the end of a plain word. -/
def plainLength (flow : Bool) : List Char → Nat
  | [] => 0
  | x :: rest => if endsPlain flow x rest.head? then 0 else plainLength flow rest + 1

/-- The line ends after a plain word; nothing if a document starts or ends among them. -/
def plainBreaks : Nat → Cursor → List Char → Option (List Char) × Cursor
  | 0, c, breaks => (some breaks.reverse, c)
  | fuel + 1, c, breaks =>
    if c.holds ' ' then plainBreaks fuel c.next breaks
    else match c.lineBreak with
      | (some b, c) =>
        if c.atDocumentMarker then (none, c) else plainBreaks fuel c (b :: breaks)
      | (none, c) => (some breaks.reverse, c)

/-- The spaces or line ends after a plain word, whether a line ended, and the place after them. -/
def plainSpaces (c : Cursor) : List Char × Bool × Cursor :=
  let (spaces, c) := c.takeWhile (· == ' ')
  match c.lineBreak with
  | (some b, c) =>
    if c.atDocumentMarker then ([], true, c)
    else match plainBreaks (c.rest.length + 1) c [] with
      | (some breaks, c) => (foldBreaks b breaks, true, c)
      | (none, c) => ([], true, c)
  | (none, c) => (spaces, false, c)

/-- The text of a plain scalar, and whether a line ended after its last word. -/
def plainText (flow : Bool) (indent : Nat) :
    Nat → Cursor → List Char → List Char → Bool → List Char × Bool × Cursor
  | 0, c, text, _, ended => (text, ended, c)
  | fuel + 1, c, text, spaces, ended =>
    if c.holds '#' then (text, ended, c)
    else
      let n := plainLength flow c.rest
      if n = 0 then (text, ended, c)
      else
        let text := text ++ spaces ++ c.rest.take n
        let (spaces, ended, c) := plainSpaces (c.skip n)
        if spaces.isEmpty || c.holds '#' || (!flow && c.column < indent) then (text, ended, c)
        else plainText flow indent fuel c text spaces ended

/-- **A plain scalar** inside a block at column `indent`, and whether a line ended after it. -/
def plainScalar (flow : Bool) (indent : Int) (c : Cursor) : String × Bool × Cursor :=
  let (text, ended, c) :=
    plainText flow (indent + 1).toNat (c.rest.length + 1) c [] [] false
  (String.ofList text, ended, c)

end ItemCatalog.Yaml
