import ItemCatalog.Value.Basic

/-! # Items: what a catalog holds

An item is a named and versioned description of something that can be deployed. Its body, the plan,
is not looked into. Name and version together are the identity of an item inside a catalog. -/

namespace ItemCatalog

/-- The kinds of items. -/
inductive ItemType where
  | template
  | entity
  | policy
  | location
deriving DecidableEq, Repr, Inhabited

/-- The kinds of items, in their order. -/
def ItemType.all : List ItemType :=
  [.template, .entity, .policy, .location]

/-- The word for a kind. -/
def ItemType.name : ItemType → String
  | .template => "template"
  | .entity => "entity"
  | .policy => "policy"
  | .location => "location"

/-- The kind of a word. -/
def ItemType.ofName? (word : String) : Option ItemType :=
  ItemType.all.find? fun t => t.name == word

/-- The version of an item that gives none. -/
def defaultVersion : String := "0.0.0-SNAPSHOT"

/-- An item of a catalog. Other items use its symbolic name, and readers the one for display; its
plan is a value of any form. -/
structure Item where
  symbolicName : String
  version : String := defaultVersion
  displayName : Option String := none
  description : Option String := none
  itemType : ItemType := .entity
  plan : Value := .null
  source : Option String := none
deriving DecidableEq, Inhabited

/-- **The identity** of an item: its symbolic name and its version. -/
def Item.id (item : Item) : String :=
  item.symbolicName ++ ":" ++ item.version

end ItemCatalog
