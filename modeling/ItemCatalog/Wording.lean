import ItemCatalog.Item.Validation
import ItemCatalog.Yaml.Fault

/-! # Wordings: how readers say what is wrong

Whoever reads a text or checks fields says in its own words what is wrong with them. These words get
into the faults and the records of a catalog, but they are not its own: they are up to the readers,
and another version of a reader may choose others. A wording that quotes what it is about quotes the
keys of a mapping in their order. -/

namespace ItemCatalog

/-- How readers say what is wrong: with a structured text, which may have a name, with a legacy
text, and with fields that describe no item. -/
structure Wording where
  structured (name : Option String) (text : String) : String
  legacy (text : String) : String
  violations (vs : List Violation) : String

namespace Wording

/-- The keys and the defects of violations. -/
def briefViolations (vs : List Violation) : String :=
  "<validation " ++ "; ".intercalate (vs.map fun v => s!"{v.key}:{v.defect.name}") ++ ">"

/-- The wording that quotes nothing of a text or a value. -/
def brief : Wording where
  structured _ _ := Yaml.Fault.message .malformed
  legacy _ := "<xml error>"
  violations := briefViolations

instance : Inhabited Wording := ⟨brief⟩

end Wording

end ItemCatalog
