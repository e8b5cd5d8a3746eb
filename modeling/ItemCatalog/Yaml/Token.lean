import ItemCatalog.Yaml.Cursor

/-! # Tokens: the marks and texts of a document

A document is a row of tokens: marks of structure, of which those that open and close a block are
read off the indentation, names for nodes, tags and scalars. -/

namespace ItemCatalog.Yaml

/-- A line of instructions in front of a document: the version of the format, a short name for the
start of tags, or any other instruction. -/
inductive Directive where
  | version (major minor : Nat)
  | handle (name start : String)
  | other
deriving DecidableEq, Repr

/-- A mark or text of a document. A tag has a handle or none, and a scalar is plain if it stands
without quotes. -/
inductive Token where
  | streamEnd
  | directive (d : Directive)
  | documentStart
  | documentEnd
  | blockSequenceStart
  | blockMappingStart
  | blockEnd
  | flowSequenceStart
  | flowSequenceEnd
  | flowMappingStart
  | flowMappingEnd
  | blockEntry
  | flowEntry
  | key
  | value
  | alias (name : String)
  | anchor (name : String)
  | tag (handle : Option String) (suffix : String)
  | scalar (text : String) (plain : Bool)
deriving DecidableEq, Repr, Inhabited

end ItemCatalog.Yaml
