import ItemCatalog.Fault
import ItemCatalog.Yaml.Load

/-! # Structured documents: items in a catalog section

A structured document is a mapping with a section `catalog`. The section lists its items and may
give a version, a kind and a description for those that have none of their own; a section with an id
and no list is a single item. Every item is labelled with the source of the document, whatever it
says about its source itself. -/

namespace ItemCatalog.Document

/-- The key of the section. -/
def sectionKey : String := "catalog"

/-- The keys that a section gives to its items. -/
def defaultKeys : List String := ["version", "item_type", "description"]

/-- The entries that a section gives to its items. -/
def sectionDefaults (sec : Entries) : Entries :=
  defaultKeys.filterMap fun key => (sec.get? key).map fun v => (.text key, v)

/-- The value of a source label. -/
def sourceValue (source : Option String) : Value :=
  source.elim .null .text

/-- The fields with the label of a source. -/
def labelled (fields : Entries) (source : Option String) : Entries :=
  fields.put (.text "source") (sourceValue source)

/-- The fault of an item; `place` says where it stands. -/
def invalidItem (w : Wording) (source : Option String) (place : String) (vs : List Violation) :
    Fault :=
  .parse s!"Invalid catalog item {place}: {w.violations vs}" source (some (.ofViolations vs w))

/-- The item of some fields; `place` says where they stand. -/
def buildItem (w : Wording) (fields : Entries) (source : Option String) (place : String) :
    Except Fault Item :=
  (Item.validate (labelled fields source)).mapError (invalidItem w source place)

/-- The fields of an entry, over the defaults of its section. -/
def entryFields (defaults entry : Entries) : Entries :=
  defaults.merge (entry.filter fun e => !e.1.same (.text "items"))

/-- The items of the entries from the place `index` on. -/
def buildEntries (w : Wording) (defaults : Entries) (source : Option String) :
    Nat → List Value → Except Fault (List Item)
  | _, [] => .ok []
  | index, entry :: rest =>
    match entry.asMap? with
    | none => .error (.parse s!"Catalog item #{index} must be a mapping" source none)
    | some fields => do
      let item ← buildItem w (entryFields defaults fields) source s!"#{index}"
      return item :: (← buildEntries w defaults source (index + 1) rest)

/-- The entries of a section: its list, or the section itself if it has an id and no list. -/
def sectionEntries (sec : Entries) (whole : Value) (source : Option String) :
    Except Fault (List Value) :=
  match sec.get? "items" with
  | some items =>
    if !items.isTruthy then .ok []
    else match items.asList? with
      | some entries => .ok entries
      | none => .error (.parse "'items' must be a list" source none)
  | none =>
    if sec.has "id" then .ok [whole]
    else .error (.parse s!"'{sectionKey}' must define 'items' or a single item 'id'" source none)

/-- **The items** of the value of a structured document. -/
def itemsOfValue (w : Wording) (data : Value) (source : Option String) :
    Except Fault (List Item) :=
  match data.asMap?.bind (·.get? sectionKey) with
  | none =>
    .error (.parse s!"Catalog content must be a mapping with a '{sectionKey}' key" source none)
  | some whole =>
    match whole.asMap? with
    | none => .error (.parse s!"'{sectionKey}' must be a mapping" source none)
    | some sec => do
      let entries ← sectionEntries sec whole source
      buildEntries w (sectionDefaults sec) source 0 entries

/-- **The items** of a structured document. A text that breaks the rules of the format is reported
with its source; a scalar that does not fit its type is reported as it is. -/
def structuredItems (text : String) (source : Option String) (w : Wording := .brief) :
    Except Fault (List Item) :=
  let words := w.structured none text
  match Yaml.load text with
  | .ok data => itemsOfValue w data source
  | .error .malformed =>
    .error (.parse s!"Invalid YAML catalog content: {words}" source
      (some (.ofYaml words .malformed)))
  | .error e => .error (.ofYaml words e)

end ItemCatalog.Document
