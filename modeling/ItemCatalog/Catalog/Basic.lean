import ItemCatalog.Document.Legacy

/-! # Catalogs: items under their identities

A catalog holds items in the order in which their identities first came in, one item for each
identity; an item that comes again is put in the place of the old one. A reset replaces everything,
and a reset to a legacy document also gives the catalog the name of the document. -/

namespace ItemCatalog

/-- A catalog: its items, one for each identity, and the name of the legacy document that it was
reset to. -/
structure Catalog where
  items : List Item := []
  documentName : Option String := none
deriving Inhabited

namespace Catalog

/-- The catalog without items. -/
def empty : Catalog := {}

/-- The identities of the items. -/
def ids (c : Catalog) : List String :=
  c.items.map Item.id

/-- Whether an identity is taken. -/
def contains (c : Catalog) (id : String) : Bool :=
  c.items.any fun i => i.id == id

/-- The count of items. -/
def size (c : Catalog) : Nat :=
  c.items.length

/-! ### Storing -/

/-- Items with one more: in the place of the item of the same identity, or at the end. -/
def putItem (item : Item) : List Item → List Item
  | [] => [item]
  | i :: rest => if i.id = item.id then item :: rest else i :: putItem item rest

/-- The catalog with an item stored. -/
def put (c : Catalog) (item : Item) : Catalog :=
  { c with items := putItem item c.items }

/-- Items with those of a list stored one after the other. -/
def putAll (items : List Item) (more : List Item) : List Item :=
  more.foldl (fun acc i => putItem i acc) items

/-- Items that are handed over one after the other, and the fault that ends this before all of them
are there, if one does. -/
structure Handover where
  items : List Item
  fault : Option Fault := none
deriving Inhabited

instance : Coe (List Item) Handover := ⟨fun items => { items }⟩

instance : Coe (Option (List Item)) (Option Handover) := ⟨Option.map fun items => { items }⟩

/-- The items, if all of them are there. -/
def Handover.toExcept (h : Handover) : Except Fault (List Item) :=
  h.fault.elim (.ok h.items) .error

/-- The catalog of some items alone. -/
def ofItems (items : List Item) : Catalog :=
  ⟨putAll [] items, none⟩

/-- The note about a reset. -/
def resetNote (c : Catalog) : Log.Record :=
  Log.catalog.debug s!"Catalog reset with {c.size} item(s)"

/-- The name that a legacy document gives: its name, or its id if the name is empty. -/
def nameOf (d : Document.LegacyDocument) : Option String :=
  (Document.nonEmpty d.name).or d.id

/-- The catalog of a legacy document. -/
def ofDocument (d : Document.LegacyDocument) : Catalog :=
  ⟨putAll [] d.items, nameOf d⟩

/-! ### Adding -/

/-- **One item added:** an identity that is taken is a conflict unless the addition is forced. -/
def addItem (c : Catalog) (item : Item) (force : Bool) : Except Fault Item × Catalog :=
  if c.contains item.id && !force then (.error (.conflict [item.id] []), c)
  else (.ok item, c.put item)

/-- A batch that is being added: the catalog so far, the items that were added and the identities
that were taken. -/
structure Batch where
  catalog : Catalog
  added : List Item := []
  conflicts : List String := []

/-- The next item of a batch. -/
def Batch.add (force : Bool) (b : Batch) (item : Item) : Batch :=
  if b.catalog.contains item.id && !force then { b with conflicts := b.conflicts ++ [item.id] }
  else { b with catalog := b.catalog.put item, added := b.added ++ [item] }

/-- A batch of items added; those that conflict are left out and reported at the end. -/
def addBatch (c : Catalog) (items : List Item) (force : Bool) :
    Except Fault (List Item) × Catalog :=
  let b := items.foldl (Batch.add force) ⟨c, [], []⟩
  if b.conflicts.isEmpty then (.ok b.added, b.catalog)
  else (.error (.conflict b.conflicts b.added), b.catalog)

/-- **The items of a structured text added;** a text that cannot be read changes nothing. -/
def addItems (c : Catalog) (text : String) (force : Bool) (source : Option String)
    (w : Wording := .brief) : Except Fault (List Item) × Catalog :=
  match Document.structuredItems text source w with
  | .error e => (.error e, c)
  | .ok items => c.addBatch items force

/-! ### Looking up -/

/-- **The item of a name:** with a version the item under the identity of both, without one the last
item of that name. -/
def get? (c : Catalog) (name : String) (version : Option String) : Option Item :=
  match version with
  | some v => c.items.find? fun i => i.id == name ++ ":" ++ v
  | none => (c.items.filter fun i => i.symbolicName == name).getLast?

/-- How many items there are of a kind. -/
def countType (c : Catalog) (t : ItemType) : Nat :=
  c.items.countP fun i => i.itemType == t

/-- The kinds of the items, each at its first item. -/
def types (items : List Item) : List ItemType :=
  items.foldl (fun acc i => if acc.contains i.itemType then acc else acc ++ [i.itemType]) []

/-- The counts of items by kind. -/
def countByType (c : Catalog) : List (ItemType × Nat) :=
  (types c.items).map fun t => (t, c.countType t)

/-- What is known about a catalog at a glance. -/
structure Stats where
  items : Nat
  byType : List (ItemType × Nat)
  itemIds : List String
  documentName : Option String

/-- **The statistics** of a catalog. -/
def stats (c : Catalog) : Stats :=
  ⟨c.size, c.countByType, c.ids, c.documentName⟩

/-- The catalog as it is shown in messages. -/
def inspect (c : Catalog) : String :=
  s!"BasicCatalog(items={c.size})"

end Catalog

end ItemCatalog
