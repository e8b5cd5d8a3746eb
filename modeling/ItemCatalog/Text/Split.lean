/-! # Splitting: the parts of a text between separators

A text falls into one part more than it has separators. The parts never contain the separator, and
there is always at least one of them, the empty one if the text is empty. -/

namespace ItemCatalog.Text

/-- The parts of a text between the places of a separator. -/
def cut (sep : Char) (s : String) : List String :=
  (s.toList.splitOn sep).map String.ofList

end ItemCatalog.Text
