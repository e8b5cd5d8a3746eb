/-! # Element trees: what a legacy text holds

A tree consists of elements with attributes, runs of text, instructions and references that are not
resolved; comments leave no trace. Names are expanded: a name is written after the address of its
space, if it has one. -/

namespace ItemCatalog.Xml

/-- The name of an element or an attribute, inside the space of an address, if it is in one. -/
structure Name where
  space : Option String
  localName : String
deriving DecidableEq, Repr, Inhabited

/-- A name that belongs to no space. -/
def Name.plain (s : String) : Name := ⟨none, s⟩

/-- The text of a name, with the address of its space in braces. -/
def Name.display (n : Name) : String :=
  match n.space with
  | some uri => "\x7b" ++ uri ++ "\x7d" ++ n.localName
  | none => n.localName

/-- A part of a tree: an element with its attributes and parts, a run of text, an instruction for a
program, or a reference that is not resolved. -/
inductive Node where
  | element (name : Name) (attributes : List (Name × String)) (children : List Node)
  | text (s : String)
  | instruction
  | reference (name : String)
deriving Repr, Inhabited

/-- An element. -/
structure Element where
  name : Name
  attributes : List (Name × String)
  children : List Node
deriving Repr, Inhabited

/-- The element that a part is, if it is one. -/
def Node.asElement? : Node → Option Element
  | .element n as cs => some ⟨n, as, cs⟩
  | _ => none

namespace Element

/-- The value of an attribute without a space. -/
def attribute? (e : Element) (name : String) : Option String :=
  e.attributes.lookup (Name.plain name)

/-- The elements among the parts, in their order. -/
def elements (e : Element) : List Element :=
  e.children.filterMap Node.asElement?

/-- The first element of a name among the parts. -/
def child? (e : Element) (name : String) : Option Element :=
  e.elements.find? fun c => c.name == Name.plain name

/-- The text in front of the first part that is no text; nothing if there is none. -/
def leadingText? (e : Element) : Option String :=
  match e.children with
  | .text s :: _ => some s
  | _ => none

end Element

end ItemCatalog.Xml
