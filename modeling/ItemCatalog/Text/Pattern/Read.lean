import ItemCatalog.Number.Read
import ItemCatalog.Text.Pattern.Escape

/-! # Pattern texts: how a pattern is written

A character stands for itself, unless it is special: a point, a set in square brackets, a group in
round ones, a repetition, a bar between branches, the start or end of the text, or a backslash.
Modes at the start of a group change how characters are compared and what the special ones mean. -/

namespace ItemCatalog.Text.Pattern

/-! ### Repetitions -/

/-- The least count of rounds that a repetition may not ask for. -/
def roundLimit : Nat := 4294967295

/-- The bounds of a repetition after its first character, if it is one. -/
def readBounds (c : Char) : Reading (Option (Nat × Option Nat)) := do
  match c with
  | '?' => return some (0, some 1)
  | '*' => return some (0, none)
  | '+' => return some (1, none)
  | _ =>
    let start ← get
    let begin_ ← here
    if (← peek) == ['\x7d'] then return none
    let least ← takeUpTo Char.isDigit start.rest.length
    let most ← if ← skip ',' then takeUpTo Char.isDigit start.rest.length else pure least
    if !(← skip '\x7d') then
      set start
      return none
    let low := valueOf 10 least
    let high := valueOf 10 most
    if low ≥ roundLimit || high ≥ roundLimit then throw (.tooManyRounds, none)
    if most.isEmpty then return some (low, none)
    if high < low then complain .wrongBounds ((← here) - begin_)
    return some (low, some high)

/-- The repetition of the last of the items, which stand in reverse order. -/
def repeatLast (place : Nat) (bounds : Nat × Option Nat) : List Piecewise → Reading (List Piecewise)
  | [] => throw (.nothingToRepeat, some place)
  | (.place, _) :: _ => throw (.nothingToRepeat, some place)
  | (.repeated, _) :: _ => throw (.repeatedTwice, some place)
  | (.other, p) :: items => do
    let (least, most) := bounds
    if ← skip '?' then return (.repeated, .repeated p least most true) :: items
    let q := Pattern.repeated p least most false
    if ← skip '+' then return (.repeated, .whole q) :: items
    return (.repeated, q) :: items

/-! ### Modes -/

/-- The letters of modes. -/
def modeLetters : List Char := ['i', 'L', 'm', 's', 'x', 'a', 'u']

/-- The modes with one switched. -/
def Modes.switch (m : Modes) (on : Bool) : Char → Modes
  | 'i' => { m with anyCase := on }
  | 'm' => { m with lines := on }
  | 's' => { m with pointAll := on }
  | 'x' => { m with spaced := on }
  | 'a' => { m with plain := on }
  | 'u' => { m with plain := !on }
  | _ => m

/-- The complaint about a piece that should be the letter of a mode or what is expected. -/
def noMode {α : Type} (cs : List Char) (expected : String) : Reading α := do
  if cs.isEmpty then complain (.noMode expected)
  if cs.head?.any fun c => c.isAlpha || isAlphanumeric c && !isDecimal c then
    complain .unknownMode cs.length
  complain (.noMode expected) cs.length

/-- Reads letters of modes that are switched on, the first known; gives them and what comes next. -/
def readOn (c : Char) : Nat → List Char → Reading (List Char × Char)
  | 0, on => return (on, ')')
  | n + 1, on => do
    if c = 'L' then complain .localeMode
    let on := on ++ [c]
    if on.contains 'a' && on.contains 'u' then complain .oddModes
    match ← take with
    | [d] =>
      if d = ')' || d = '-' || d = ':' then return (on, d)
      if modeLetters.contains d then readOn d n on else noMode [d] "-, : or )"
    | cs => noMode cs "-, : or )"

/-- Reads letters of modes that are switched off, the first known. -/
def readOff (c : Char) : Nat → List Char → Reading (List Char)
  | 0, off => return off
  | n + 1, off => do
    if c = 'a' || c = 'u' || c = 'L' then complain .fixedModes
    let off := off ++ [c]
    match ← take with
    | [d] =>
      if d = ':' then return off
      if modeLetters.contains d then readOff d n off else noMode [d] ":"
    | cs => noMode cs ":"

/-- Reads the modes at the start of a group; tells whether they are for the whole pattern. -/
def readModes (m : Modes) (c : Char) : Reading (Modes × Bool) := do
  let fuel := (← get).rest.length + 1
  let (on, next) ← if c = '-' then pure ([], '-') else readOn c fuel []
  let changed := on.foldl (fun m c => m.switch true c) m
  if next = ')' then return (changed, true)
  if next = ':' then return (changed, false)
  match ← take with
  | [d] =>
    if !modeLetters.contains d then noMode [d] "flag"
    let off ← readOff d fuel []
    if off.any on.contains then complain .bothWays 1
    return (off.foldl (fun m c => m.switch false c) changed, false)
  | cs => noMode cs "flag"

/-! ### Groups and branches -/

/-- Opens a group, with the name that it may have. -/
def openGroup (name : Option (List Char)) : Reading Nat := do
  let r ← get
  let n := r.opened + 1
  match name with
  | none => set { r with opened := n }
  | some name =>
    let text := String.ofList name
    match r.names.lookup text with
    | some old => complain (.takenName text n old) (name.length + 1)
    | none => set { r with opened := n, names := (text, n) :: r.names }
  return n

/-- The width of a pattern among the groups so far. -/
def widthOf (p : Pattern) : Reading (Option Nat) := do
  let r ← get
  return p.width? fun n => (r.closed.lookup n).join

/-- Takes the closing bracket of a group that was opened at a place. -/
def closeBracket (opening : Nat) : Reading Unit := do
  if !(← skip ')') then complain .unclosedGroup ((← here) - opening)

/-- Skips a comment in a group that was opened at a place. -/
def skipComment (opening : Nat) : Nat → Reading Unit
  | 0 => return
  | n + 1 => do
    if (← get).rest.isEmpty then complain .unclosedComment ((← here) - opening)
    if (← take) == [')'] then return
    skipComment opening n

/-- Skips the rest of a line. -/
def skipLine : Nat → Reading Unit
  | 0 => return
  | n + 1 => do
    let cs ← take
    if cs.isEmpty || cs == ['\n'] then return
    skipLine n

/-- The group that a condition names, by a name or a number. -/
def readCondition : Reading Nat := do
  let name ← readName ')' "group name"
  let back := name.length + 1
  if isName name then groupOf name back
  else
    let text := String.ofList name
    match (Number.readInt 10 text).toOption with
    | some (Int.ofNat n) =>
      if n = 0 then complain .badNumber back
      if n ≥ 1073741824 then complain (.noGroup n) back
      let place := (← here) - back
      if ((← get).wanted.lookup n).isNone then
        modify fun r => { r with wanted := r.wanted ++ [(n, place)] }
      return n
    | _ => complain (.badName text) back

/-- The items of a branch, which stand in reverse order, one after another. -/
def joinItems (items : List Piecewise) : Pattern :=
  items.foldl (fun p item => match p with
    | .empty => item.2
    | p => .seq item.2 p) .empty

mutual

/-- Reads branches up to the end of a group; `top` at the outermost level. -/
def readBranches : Nat → Modes → Bool → Bool → Reading Pattern
  | 0, _, _, _ => return .empty
  | n + 1, m, top, first => do
    let (items, m) ← readItems n m (top && first) []
    let p := joinItems items
    if ← skip '|' then return .alt p (← readBranches n m top false)
    return p

/-- Reads the items of a branch; `first` where modes for the whole pattern can stand. -/
def readItems : Nat → Modes → Bool → List Piecewise → Reading (List Piecewise × Modes)
  | 0, m, _, items => return (items, m)
  | n + 1, m, first, items => do
    let add := fun item : Piecewise => readItems n m first (item :: items)
    let plain := fun c : Char => add (Meaning.toItem m (.code c.toNat))
    match ← peek with
    | [] => return (items, m)
    | '\\' :: c :: _ =>
      discard take
      add (← readEscape m c)
    | c :: _ =>
      if c = '|' || c = ')' then return (items, m)
      discard take
      if m.spaced && (CharSet.isPlainBlank c) then readItems n m first items
      else if m.spaced && c = '#' then
        skipLine ((← get).rest.length + 1)
        readItems n m first items
      else match c with
        | '[' => add (.other, .char (← readSet m.plain) m.likeness)
        | '.' =>
          add (.other, .char (if m.pointAll then .not .nothing else .not (.between 10 10)) .exact)
        | '^' => add (.place, .start m.lines)
        | '$' => add (.place, .finish m.lines)
        | '(' => readGroup n m first items ((← here) - 1)
        | _ =>
          if c = '?' || c = '*' || c = '+' || c = '\x7b' then
            let place := (← here) - 1
            match ← readBounds c with
            | none => plain c
            | some bounds => readItems n m first (← repeatLast place bounds items)
          else plain c

/-- Reads a group that was opened at a place, and the items after it. -/
def readGroup : Nat → Modes → Bool → List Piecewise → Nat → Reading (List Piecewise × Modes)
  | 0, m, _, items, _ => return (items, m)
  | n + 1, m, first, items, opening => do
    let goOn := fun item : Piecewise => readItems n m first (item :: items)
    let inner := fun m : Modes => do
      let p ← readBranches n m false false
      closeBracket opening
      return p
    let kept := fun name : Option (List Char) => do
      let i ← openGroup name
      let p ← inner m
      let w ← widthOf p
      modify fun r => { r with closed := (i, w) :: r.closed }
      goOn (.other, .group i p)
    let look := fun (back absent : Bool) => do
      let outer := (← get).lookStart
      if back && outer.isNone then modify fun r => { r with lookStart := some r.opened }
      let p ← readBranches n m false false
      if back && outer.isNone then modify fun r => { r with lookStart := none }
      closeBracket opening
      let w ← widthOf p
      if back && w.isNone then modify fun r => { r with openWidth := true }
      goOn (.other, .look (if back then w.getD 0 else 0) absent p)
    if !(← skip '?') then kept none
    else
      match ← take with
      | [] => complain .unexpectedEnd
      | ['P'] =>
        if ← skip '<' then
          let name ← readName '>' "group name"
          if !isName name then complain (.badName (String.ofList name)) (name.length + 1)
          kept (some name)
        else if ← skip '=' then
          let name ← readName ')' "group name"
          let i ← groupOf name (name.length + 1)
          goOn (.other, ← referTo m i (name.length + 1))
        else
          let cs ← take
          if cs.isEmpty then complain .unexpectedEnd
          complain (.unknownExtension (String.ofList ('P' :: cs))) (cs.length + 2)
      | [':'] => goOn (.other, ← inner m)
      | ['>'] => goOn (.other, .whole (← inner m))
      | ['#'] =>
        skipComment opening ((← get).rest.length + 1)
        readItems n m first items
      | ['='] => look false false
      | ['!'] => look false true
      | ['<'] =>
        match ← take with
        | [] => complain .unexpectedEnd
        | ['='] => look true false
        | ['!'] => look true true
        | cs => complain (.unknownExtension (String.ofList ('<' :: cs))) (cs.length + 2)
      | ['('] =>
        let i ← readCondition
        checkLook i
        let (yes, _) ← readItems n m false []
        let no ← if ← skip '|' then
            let (no, _) ← readItems n m false []
            if (← peek) == ['|'] then complain .moreBranches
            pure no
          else pure []
        closeBracket opening
        goOn (.other, .ifGroup i (joinItems yes) (joinItems no))
      | cs =>
        match cs with
        | [c] =>
          if c = '-' || modeLetters.contains c then
            let (changed, all) ← readModes m c
            if all then
              if !first || !items.isEmpty then complain .lateModes ((← here) - opening)
              readItems n changed first items
            else goOn (.other, ← inner changed)
          else complain (.unknownExtension c.toString) 2
        | _ => complain (.unknownExtension (String.ofList cs)) (cs.length + 1)

end

/-- Reads a whole pattern. -/
def readAll : Reading Pattern := do
  let r ← get
  goOn r.rest
  let p ← readBranches (3 * r.rest.length + 3) {} true true
  let r ← get
  if !r.rest.isEmpty then complain .unopenedGroup
  match r.wanted.find? fun w => w.1 > r.opened with
  | some (n, place) => throw (.noGroup n, some place)
  | none =>
    if r.openWidth then throw (.openWidth, none)
    return p

/-- **The pattern** that a text writes. -/
def ofText (s : String) : Except (Complaint × Option Nat) Pattern :=
  let cs := s.toList
  (readAll.run' { rest := pieces 0 cs, size := cs.length })

end ItemCatalog.Text.Pattern
