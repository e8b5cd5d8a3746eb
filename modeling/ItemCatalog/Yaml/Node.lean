import ItemCatalog.Yaml.Scan
import ItemCatalog.Yaml.Tag

/-! # Nodes: the graph of a document

The tokens of a document are read as a graph of nodes, kept in the order in which they start. A node
is named by its place in that order, so an alias is the name of a node that has started, which may
be one around the alias. -/

namespace ItemCatalog.Yaml

/-- A node of a document: a text, a row of nodes, or a row of keys and values. -/
inductive Node where
  | scalar (tag : Tag) (text : String)
  | sequence (tag : Tag) (items : List Nat)
  | mapping (tag : Tag) (entries : List (Nat × Nat))
deriving Repr, Inhabited

/-- The graph of a document, its first node, and whether some alias stands inside the node that it
names. -/
structure Graph where
  nodes : Array Node
  root : Nat
  cyclic : Bool

/-- The state of reading nodes: the tokens that are left and what stands after the last one, the
nodes that have started and those with a name, the starts of tags that handles stand for, the nodes
around this place, and whether some alias stands inside the node that it names. -/
structure Composer where
  tokens : List Token
  fault : Fault
  nodes : Array Node := #[]
  anchors : List (String × Nat) := []
  handles : List (String × String) := []
  around : List Nat := []
  cyclic : Bool := false

/-- Reading nodes: a computation that uses up tokens. -/
abbrev Compose := StateT Composer (Except Fault)

namespace Compose

/-- A text that breaks the rules. -/
def malformed {α : Type} : Compose α :=
  throw .malformed

/-- The next token. -/
def peek : Compose Token := do
  let s ← get
  match s.tokens with
  | t :: _ => return t
  | [] => throw s.fault

/-- The next token, used up. -/
def take : Compose Token := do
  let t ← peek
  modify fun s => { s with tokens := s.tokens.drop 1 }
  return t

/-- Whether the next token is one of a list. -/
def next (ts : List Token) : Compose Bool :=
  return ts.contains (← peek)

/-- Uses up the next token if it is `t`. -/
def accept (t : Token) : Compose Bool := do
  if (← peek) == t then
    let _ ← take
    return true
  else return false

/-- A new node. -/
def newNode (n : Node) : Compose Nat := do
  let s ← get
  set { s with nodes := s.nodes.push n }
  return s.nodes.size

/-- An empty node. -/
def emptyNode : Compose Nat :=
  newNode (.scalar .null "")

/-- The name of a node, given before its content is read. -/
def declare (anchor : Option String) (id : Nat) : Compose Unit :=
  match anchor with
  | some name => modify fun s => { s with anchors := (name, id) :: s.anchors }
  | none => pure ()

/-- The node of an alias. -/
def aliased (name : String) : Compose Nat := do
  let s ← get
  match s.anchors.lookup name with
  | some id =>
    set { s with cyclic := s.cyclic || s.around.contains id }
    return id
  | none => malformed

/-- The anchor and the tag in front of a node, in either order. -/
def properties : Compose (Option String × Option (Option String × String)) := do
  match ← peek with
  | .anchor name =>
    let _ ← take
    match ← peek with
    | .tag handle suffix =>
      let _ ← take
      return (some name, some (handle, suffix))
    | _ => return (some name, none)
  | .tag handle suffix =>
    let _ ← take
    match ← peek with
    | .anchor name =>
      let _ ← take
      return (some name, some (handle, suffix))
    | _ => return (none, some (handle, suffix))
  | _ => return (none, none)

/-- The name of a tag, with its handle resolved. -/
def tagName (handle : Option String) (suffix : String) : Compose String := do
  match handle with
  | none => return suffix
  | some h =>
    match (← get).handles.lookup h with
    | some start => return start ++ suffix
    | none => malformed

/-- The tag of a container. -/
def containerTag (written : Option String) (default : Tag) : Tag :=
  match written with
  | some "!" => default
  | some name => .ofName name
  | none => default

/-- The tag of a scalar: its own, or one by its text if it is plain. -/
def scalarTag (written : Option String) (text : String) (plain : Bool) : Tag :=
  match written with
  | some "!" => .ofPlain text
  | some name => .ofName name
  | none => if plain then .ofPlain text else .text

/-- Checks that a name is not given twice. -/
def checkAnchor (anchor : Option String) : Compose Unit := do
  match anchor with
  | some name => if ((← get).anchors.lookup name).isSome then malformed
  | none => pure ()

/-- Reads the content of a container that has started. -/
def inside {α : Type} (anchor : Option String) (start : Node) (read : Compose α)
    (finish : α → Node) : Compose Nat := do
  checkAnchor anchor
  let id ← newNode start
  declare anchor id
  modify fun s => { s with around := id :: s.around }
  let content ← read
  modify fun s => { s with around := s.around.drop 1, nodes := s.nodes.set! id (finish content) }
  return id

mutual

/-- A node; `block` says whether it may be a block, and `dashes` whether elements without a block of
their own may follow. -/
def node (block dashes : Bool) : Nat → Compose Nat
  | 0 => malformed
  | fuel + 1 => do
    match ← peek with
    | .alias name =>
      let _ ← take
      aliased name
    | _ => do
      let (anchor, tag) ← properties
      let written ← match tag with
        | some (handle, suffix) => some <$> tagName handle suffix
        | none => pure none
      let rowTag := containerTag written .sequence
      let mapTag := containerTag written .mapping
      let t ← peek
      if dashes && t == .blockEntry then
        inside anchor (.sequence rowTag []) (dashEntries fuel) (.sequence rowTag)
      else match t with
        | .scalar text plain =>
          let _ ← take
          checkAnchor anchor
          let id ← newNode (.scalar (scalarTag written text plain) text)
          declare anchor id
          return id
        | .flowSequenceStart =>
          let _ ← take
          inside anchor (.sequence rowTag []) (flowItems true fuel) (.sequence rowTag)
        | .flowMappingStart =>
          let _ ← take
          inside anchor (.mapping mapTag []) (flowEntries true fuel) (.mapping mapTag)
        | .blockSequenceStart =>
          if !block then malformed
          else
            let _ ← take
            inside anchor (.sequence rowTag []) (blockItems fuel) (.sequence rowTag)
        | .blockMappingStart =>
          if !block then malformed
          else
            let _ ← take
            inside anchor (.mapping mapTag []) (blockEntries fuel) (.mapping mapTag)
        | _ =>
          if anchor.isNone && written.isNone then malformed
          else
            checkAnchor anchor
            let id ← newNode (.scalar (scalarTag written "" written.isNone) "")
            declare anchor id
            return id

/-- A node, or an empty one if one of the tokens that end it comes first. -/
def nodeUnless (ends : List Token) (block dashes : Bool) : Nat → Compose Nat
  | 0 => malformed
  | fuel + 1 => do if ← next ends then emptyNode else node block dashes fuel

/-- The elements of a block. -/
def blockItems : Nat → Compose (List Nat)
  | 0 => malformed
  | fuel + 1 => do
    if ← accept .blockEntry then
      let item ← nodeUnless [.blockEntry, .blockEnd] true false fuel
      return item :: (← blockItems fuel)
    else if ← accept .blockEnd then return []
    else malformed

/-- The elements that stand at the column of the mapping around them. -/
def dashEntries : Nat → Compose (List Nat)
  | 0 => malformed
  | fuel + 1 => do
    if ← accept .blockEntry then
      let item ← nodeUnless [.blockEntry, .key, .value, .blockEnd] true false fuel
      return item :: (← dashEntries fuel)
    else return []

/-- The entries of a block. -/
def blockEntries : Nat → Compose (List (Nat × Nat))
  | 0 => malformed
  | fuel + 1 => do
    let ends : List Token := [.key, .value, .blockEnd]
    if ← accept .key then
      let key ← nodeUnless ends true true fuel
      let value ← blockValue ends fuel
      return (key, value) :: (← blockEntries fuel)
    else if ← accept .blockEnd then return []
    else malformed

/-- The value of an entry of a block, empty if it is not marked. -/
def blockValue (ends : List Token) : Nat → Compose Nat
  | 0 => malformed
  | fuel + 1 => do
    if ← accept .value then nodeUnless ends true true fuel else emptyNode

/-- The elements between brackets. -/
def flowItems (first : Bool) : Nat → Compose (List Nat)
  | 0 => malformed
  | fuel + 1 => do
    if ← accept .flowSequenceEnd then return []
    else
      if !first then
        if !(← accept .flowEntry) then malformed
      if ← next [.key] then
        let id ← inside none (.mapping .mapping []) (flowPair fuel)
          (fun e => .mapping .mapping [e])
        return id :: (← flowItems false fuel)
      else if ← accept .flowSequenceEnd then return []
      else
        let id ← node false false fuel
        return id :: (← flowItems false fuel)

/-- A single entry between brackets. -/
def flowPair : Nat → Compose (Nat × Nat)
  | 0 => malformed
  | fuel + 1 => do
    let _ ← take
    let key ← nodeUnless [.value, .flowEntry, .flowSequenceEnd] false false fuel
    if ← accept .value then
      let value ← nodeUnless [.flowEntry, .flowSequenceEnd] false false fuel
      return (key, value)
    else return (key, ← emptyNode)

/-- The entries between braces. -/
def flowEntries (first : Bool) : Nat → Compose (List (Nat × Nat))
  | 0 => malformed
  | fuel + 1 => do
    if ← accept .flowMappingEnd then return []
    else
      if !first then
        if !(← accept .flowEntry) then malformed
      if ← accept .key then
        let key ← nodeUnless [.value, .flowEntry, .flowMappingEnd] false false fuel
        if ← accept .value then
          let value ← nodeUnless [.flowEntry, .flowMappingEnd] false false fuel
          return (key, value) :: (← flowEntries false fuel)
        else
          let value ← emptyNode
          return (key, value) :: (← flowEntries false fuel)
      else if ← accept .flowMappingEnd then return []
      else
        let key ← node false false fuel
        let value ← emptyNode
        return (key, value) :: (← flowEntries false fuel)

end

/-! ### Documents -/

/-- The handles that need no directive. -/
def defaultHandles : List (String × String) :=
  [("!", "!"), ("!!", "tag:yaml.org,2002:")]

/-- The directives in front of a document. -/
def directives : Nat → Bool → List (String × String) → Compose (List (String × String))
  | 0, _, _ => malformed
  | fuel + 1, versioned, handles => do
    match ← peek with
    | .directive d =>
      let _ ← take
      match d with
      | .version major _ =>
        if versioned || major ≠ 1 then malformed else directives fuel true handles
      | .handle name start =>
        if (handles.lookup name).isSome then malformed
        else directives fuel versioned ((name, start) :: handles)
      | .other => directives fuel versioned handles
    | _ => return handles ++ defaultHandles

/-- Uses up the marks of ended documents. -/
def skipEnds : Nat → Compose Unit
  | 0 => malformed
  | fuel + 1 => do if ← accept .documentEnd then skipEnds fuel

/-- The start of a document that is marked; false at the end of the text. -/
def documentStart (fuel : Nat) : Compose Bool := do
  skipEnds fuel
  if ← next [.streamEnd] then return false
  else
    let handles ← directives fuel false []
    if ← accept .documentStart then
      modify fun s => { s with handles := handles }
      return true
    else malformed

/-- Whether the next token is a directive. -/
def nextDirective : Compose Bool := do
  match ← peek with
  | .directive _ => return true
  | _ => return false

/-- The only document of a text; nothing if there is none. -/
def document (fuel : Nat) : Compose (Option Nat) := do
  let marked ← pure ((← nextDirective) || (← next [.documentStart, .streamEnd]))
  let found ← if marked then documentStart fuel else do
    modify fun s => { s with handles := defaultHandles }
    pure true
  if !found then return none
  else
    let id ←
      if marked && ((← nextDirective) || (← next [.documentStart, .documentEnd, .streamEnd])) then
        emptyNode
      else node true false fuel
    let _ ← accept .documentEnd
    if ← documentStart fuel then malformed else return some id

end Compose

/-- **The graph** of the document in a text; nothing if the text holds none. -/
def Graph.ofText (cs : List Char) : Except Fault (Option Graph) := do
  let scanned := scan cs
  let fuel := 8 * scanned.tokens.length + 16
  let (root, s) ←
    (Compose.document fuel).run ⟨scanned.tokens, scanned.fault, #[], [], [], [], false⟩
  return root.map fun id => ⟨s.nodes, id, s.cyclic⟩

end ItemCatalog.Yaml
