import ItemCatalog.Value.Basic
import ItemCatalog.Yaml.Node
import ItemCatalog.Yaml.Typed

/-! # Loading: from nodes to values

Every node gets one value, and an alias shares it. Containers are filled in the order in which they
are met, level by level, and the first fault in this order is the fault of the text. A mapping first
takes over the entries that it merges; entries of its own win. Afterwards the values are unfolded
into one, with knots for the containers that contain themselves. -/

namespace ItemCatalog.Yaml

/-- The content that a node is given. A container is pending until it is filled. -/
inductive Content where
  | scalar (s : Scalar)
  | list (items : List Nat)
  | pairs (items : List (Nat × Nat))
  | set (items : List Scalar)
  | map (entries : List (Scalar × Nat))
  | pending
deriving Inhabited

/-- The state of filling the nodes of a graph, in which merged entries are put in place: the
contents given so far, and the containers to fill, the next one first. -/
structure Builder where
  nodes : Array Node
  contents : Array (Option Content)
  waiting : List Nat

/-- Filling nodes. -/
abbrev Build := StateT Builder (Except Fault)

namespace Build

/-- The node of a number. -/
def nodeAt (id : Nat) : Build Node :=
  return (← get).nodes[id]?.getD (.scalar .null "")

/-- Puts a node in place. -/
def setNode (id : Nat) (n : Node) : Build Unit :=
  modify fun s => { s with nodes := s.nodes.set! id n }

/-- Gives a node its content. -/
def setContent (id : Nat) (c : Content) : Build Unit :=
  modify fun s => { s with contents := s.contents.set! id (some c) }

/-- The text of a node; a mapping stands for the value of its mark. -/
def scalarText : Nat → Nat → Build String
  | 0, _ => throw .malformed
  | fuel + 1, id => do
    match ← nodeAt id with
    | .scalar _ text => return text
    | .sequence _ _ => throw .malformed
    | .mapping _ entries =>
      for (key, value) in entries do
        match ← nodeAt key with
        | .scalar .value _ => return ← scalarText fuel value
        | _ => pure ()
      throw .malformed

/-- The tag of a node. -/
def tagOf : Node → Tag
  | .scalar t _ => t
  | .sequence t _ => t
  | .mapping t _ => t

/-- Gives a node its value, or puts it among the containers to fill. -/
def construct (id : Nat) : Build Content := do
  let s ← get
  match s.contents[id]?.getD none with
  | some c => return c
  | none =>
    let tag := tagOf (← nodeAt id)
    match tag with
    | .sequence | .mapping | .set | .orderedMap | .pairs =>
      setContent id .pending
      modify fun s => { s with waiting := s.waiting ++ [id] }
      return .pending
    | .merge | .value | .other _ => throw .malformed
    | _ =>
      let text ← scalarText (s.nodes.size + 1) id
      match ← typed tag text with
      | some v =>
        setContent id (.scalar v)
        return .scalar v
      | none => throw .malformed

/-- The entries of a mapping that a node has after merging. -/
def entriesAt (id : Nat) : Build (List (Nat × Nat)) := do
  match ← nodeAt id with
  | .mapping _ entries => return entries
  | _ => throw .malformed

/-- Whether a node is a mapping. -/
def isMapping (id : Nat) : Build Bool := do
  match ← nodeAt id with
  | .mapping _ _ => return true
  | _ => return false

/-- Puts entries in place of those of a mapping. -/
def setEntries (id : Nat) (entries : List (Nat × Nat)) : Build Unit := do
  match ← nodeAt id with
  | .mapping tag _ => setNode id (.mapping tag entries)
  | _ => pure ()

/-- Merges entries into a mapping: from the entry `index` on, with those of `merged` so far. -/
def flatten : Nat → Nat → Nat → List (Nat × Nat) → Build Unit
  | 0, _, _, _ => throw .malformed
  | fuel + 1, id, index, merged => do
    let entries ← entriesAt id
    match entries[index]? with
    | none =>
      if !merged.isEmpty then setEntries id (merged ++ entries)
    | some (key, value) =>
      match ← nodeAt key with
      | .scalar .merge _ =>
        setEntries id (entries.eraseIdx index)
        match ← nodeAt value with
        | .mapping _ _ =>
          flatten fuel value 0 []
          let more ← entriesAt value
          flatten fuel id index (merged ++ more)
        | .sequence _ items =>
          let mut rows : List (List (Nat × Nat)) := []
          for item in items do
            if !(← isMapping item) then throw .malformed
            flatten fuel item 0 []
            rows := (← entriesAt item) :: rows
          flatten fuel id index (merged ++ rows.flatten)
        | .scalar _ _ => throw .malformed
      | .scalar .value text =>
        setNode key (.scalar .text text)
        flatten fuel id (index + 1) merged
      | _ => flatten fuel id (index + 1) merged

/-- The entry of a mapping under an equal key replaced, or a new one at the end. -/
def putEntry (key : Scalar) (value : Nat) : List (Scalar × Nat) → List (Scalar × Nat)
  | [] => [(key, value)]
  | (k, v) :: rest => if k.same key then (k, value) :: rest else (k, v) :: putEntry key value rest

/-- The keys and values of a mapping node. -/
def mapping (fuel id : Nat) : Build (List (Scalar × Nat)) := do
  if !(← isMapping id) then throw .malformed
  flatten fuel id 0 []
  let mut out : List (Scalar × Nat) := []
  for (key, value) in ← entriesAt id do
    match ← construct key with
    | .scalar k =>
      let _ ← construct value
      out := putEntry k value out
    | _ => throw .malformed
  return out

/-- The elements of a sequence node. -/
def sequence (id : Nat) : Build (List Nat) := do
  match ← nodeAt id with
  | .sequence _ items =>
    for item in items do
      let _ ← construct item
    return items
  | _ => throw .malformed

/-- The pairs of a sequence of mappings with one entry each. -/
def pairRow (id : Nat) : Build (List (Nat × Nat)) := do
  match ← nodeAt id with
  | .sequence _ items =>
    let mut out : List (Nat × Nat) := []
    for item in items do
      match ← nodeAt item with
      | .mapping _ [(key, value)] =>
        let _ ← construct key
        let _ ← construct value
        out := out ++ [(key, value)]
      | _ => throw .malformed
    return out
  | _ => throw .malformed

/-- Fills a container. -/
def fill (fuel id : Nat) : Build Unit := do
  match tagOf (← nodeAt id) with
  | .sequence => setContent id (.list (← sequence id))
  | .mapping => setContent id (.map (← mapping fuel id))
  | .set => setContent id (.set ((← mapping fuel id).map (·.1)))
  | _ => setContent id (.pairs (← pairRow id))

/-- Fills the containers that wait. -/
def fillAll (fuel : Nat) : Nat → Build Unit
  | 0 => pure ()
  | n + 1 => do
    match (← get).waiting with
    | [] => pure ()
    | id :: rest =>
      modify fun s => { s with waiting := rest }
      fill fuel id
      fillAll fuel n

end Build

/-! ### Unfolding -/

/-- The nodes inside a content. -/
def Content.parts : Content → List Nat
  | .list items => items
  | .pairs items => items.flatMap fun e => [e.1, e.2]
  | .map entries => entries.map (·.2)
  | _ => []

/-- The nodes that are reached from a list of nodes. -/
def reached (contents : Array (Option Content)) : Nat → List Nat → List Nat → List Nat
  | 0, _, seen => seen
  | _, [], seen => seen
  | fuel + 1, id :: rest, seen =>
    if seen.contains id then reached contents fuel rest seen
    else
      let parts := ((contents[id]?.getD none).map Content.parts).getD []
      reached contents fuel (parts ++ rest) (id :: seen)

/-- Whether a node contains itself. -/
def onCycle (contents : Array (Option Content)) (fuel id : Nat) : Bool :=
  let parts := ((contents[id]?.getD none).map Content.parts).getD []
  (reached contents fuel parts []).contains id

/-- The value of a node inside the knots `path`. -/
def unfold (contents : Array (Option Content)) (knots : List Nat) :
    Nat → List Nat → Nat → Value
  | 0, _, _ => .null
  | fuel + 1, path, id =>
    if path.contains id then .again id
    else
      let isKnot := knots.contains id
      let inner := if isKnot then id :: path else path
      let part := unfold contents knots fuel inner
      let body := match contents[id]?.getD none with
        | some (.scalar s) => Value.scalar s
        | some (.list items) => .list (items.map part)
        | some (.pairs items) => .list (items.map fun e => .pair (part e.1) (part e.2))
        | some (.set items) => .set items
        | some (.map entries) => .map (entries.map fun e => (e.1, part e.2))
        | some .pending | none => .null
      if isKnot then .knot id body else body

/-- The value of a graph. -/
def Graph.value (g : Graph) : Except Fault Value := do
  let size := g.nodes.size
  let start : Builder := ⟨g.nodes, Array.replicate size none, []⟩
  let edges := (g.nodes.toList.map fun
    | .scalar _ _ => 0
    | .sequence _ items => items.length
    | .mapping _ entries => 2 * entries.length).foldl (· + ·) 0
  let fuel := (size + edges + 2) * (size + 2)
  let (_, s) ← (do
    let _ ← Build.construct g.root
    Build.fillAll fuel (size + 1) : Build Unit).run start
  let knots := if g.cyclic then (List.range size).filter (onCycle s.contents fuel) else []
  return unfold s.contents knots (size + 1) [] g.root

/-- **The value** of the document in a text; null if the text holds no document. -/
def load (text : String) : Except Fault Value := do
  match ← Graph.ofText text.toList with
  | some g => g.value
  | none => return .null

end ItemCatalog.Yaml
