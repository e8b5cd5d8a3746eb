import ItemCatalog.Document.Structured
import ItemCatalog.Log.Component
import ItemCatalog.Xml.Read

/-! # Legacy documents: a whole catalog in an element tree

A legacy document is a tree with the root `catalog`. Every element under the root that is named
after a kind of item is an item: its name is the attribute `id` or, if that is missing or empty,
`type`, and its description and plan are the texts of its parts of these names. Other elements are
left out, and what is left out is noted. -/

namespace ItemCatalog.Document

/-- A catalog that replaces another as a whole, and where it was read from. -/
structure LegacyDocument where
  id : Option String := none
  name : Option String := none
  description : Option String := none
  source : Option String := none
  items : List Item := []
deriving Inhabited

/-- The word for a source in notes. -/
def sourceWord (source : Option String) : String :=
  source.getD "None"

/-- The text of the first part of a name: what stands in front of its own first part, stripped. -/
def partText? (e : Xml.Element) (name : String) : Option String :=
  ((e.child? name).bind Xml.Element.leadingText?).map Text.strip

/-- A text that is not empty. -/
def nonEmpty (s : Option String) : Option String :=
  s.filter (· ≠ "")

/-- The value of a text that may be absent. -/
def textOrNull (s : Option String) : Value :=
  s.elim .null .text

/-- The fields of the item that an element of a kind describes. -/
def legacyFields (e : Xml.Element) (kind : ItemType) : Entries :=
  [(.text "id", textOrNull ((nonEmpty (e.attribute? "id")).or (e.attribute? "type"))),
   (.text "name", textOrNull (e.attribute? "name")),
   (.text "item_type", .text kind.name),
   (.text "description", textOrNull (partText? e "description")),
   (.text "item", textOrNull (partText? e "plan"))] ++
  ((nonEmpty (e.attribute? "version")).map fun v => (Scalar.text "version", Value.text v)).toList

/-- The kind of item that an element is named after. -/
def legacyType? (e : Xml.Element) : Option ItemType :=
  if e.name.space.isNone then ItemType.ofName? e.name.localName else none

/-- The note about an element that is left out. -/
def ignoredNote (e : Xml.Element) (source : Option String) : Log.Record :=
  Log.parsers.debug
    s!"Ignoring unsupported legacy catalog element <{e.name.display}> in {sourceWord source}"

/-- The items of elements, after `count` items, and the notes about those that are left out. -/
def legacyItems (w : Wording) (source : Option String) :
    Nat → List Xml.Element → Except Fault (List Item) × List Log.Record
  | _, [] => (.ok [], [])
  | count, e :: rest =>
    if e.name == Xml.Name.plain "description" then legacyItems w source count rest
    else match legacyType? e with
      | none =>
        let (r, log) := legacyItems w source count rest
        (r, ignoredNote e source :: log)
      | some kind =>
        match buildItem w (legacyFields e kind) source s!"<{kind.name}> #{count}" with
        | .error fault => (.error fault, [])
        | .ok item =>
          let (r, log) := legacyItems w source (count + 1) rest
          (r.map (item :: ·), log)

/-- **The document** of a tree. -/
def legacyOfTree (w : Wording) (root : Xml.Element) (source : Option String) :
    Except Fault LegacyDocument × List Log.Record :=
  if root.name == Xml.Name.plain sectionKey then
    let (items, log) := legacyItems w source 0 root.elements
    (items.map fun items =>
      ⟨root.attribute? "id", root.attribute? "name", partText? root "description", source,
        items⟩, log)
  else
    (.error (.parse s!"Legacy catalog root must be <{sectionKey}>, found <{root.name.display}>"
      source none), [])

/-- **The document** of a legacy text. -/
def legacyDocument (text : String) (source : Option String) (w : Wording := .brief) :
    Except Fault LegacyDocument × List Log.Record :=
  match Xml.read text with
  | some root => legacyOfTree w root source
  | none =>
    (.error (.parse s!"Invalid XML catalog content: {w.legacy text}" source
      (some (.failure .legacyText (w.legacy text)))), [])

end ItemCatalog.Document
