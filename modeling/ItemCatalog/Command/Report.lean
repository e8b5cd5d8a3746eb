import ItemCatalog.Catalog.Basic
import ItemCatalog.Text.Markup
import ItemCatalog.Text.Split

/-! # Reports: what the program shows of a catalog

A report is a title, the name of the legacy document if there is one, and a table of the items.
Texts of the catalog may be marked with styles, which are taken out; a text that is marked wrongly
ends the report before the part that it belongs to. -/

namespace ItemCatalog.Command

/-- A line of what the program shows: a text, or the cells of a row of a table. -/
inductive Line where
  | text (s : String)
  | row (cells : List String)
deriving DecidableEq, Repr, Inhabited

/-- The text without blanks at its end. -/
def trimEnd (s : String) : String :=
  String.ofList (s.toList.reverse.dropWhile Text.isBlank).reverse

/-- The lines of a text. -/
def textLines (s : String) : List Line :=
  (Text.cut '\n' s).map fun l => .text (trimEnd l)

/-- The names of the columns. -/
def columnNames : List String := ["Id", "Version", "Type", "Name", "Source"]

/-- The cells of an item. -/
def cellsOf (i : Item) : List String :=
  [i.symbolicName, i.version, i.itemType.name, i.displayName.getD "", i.source.getD ""]

/-- The lines of a row whose cells may have several lines. -/
def rowLines (cells : List String) : List Line :=
  let columns := cells.map (Text.cut '\n')
  let height := (columns.map List.length).foldl max 1
  (List.range height).map fun n =>
    .row (columns.map fun column => Text.strip (column[n]?.getD ""))

/-- The parts of a list by columns, so many of them, one column after another. -/
def byColumns (count : Nat) (rows : List (List String)) : List String :=
  (List.range count).flatMap fun n => rows.map fun r => r[n]?.getD ""

/-- The table of items; the first text in the order of columns that is marked wrongly ends it. -/
def tableLines (items : List Item) : Except Text.Markup.Fault (List Line) := do
  let rows := items.map cellsOf
  discard ((byColumns columnNames.length rows).mapM Text.Markup.plainText)
  let shown ← rows.mapM (·.mapM Text.Markup.plainText)
  return .row columnNames :: shown.flatMap rowLines

/-- The lines about the legacy document. -/
def documentLines (name : Option String) : Except Text.Markup.Fault (List Line) :=
  match name.filter (· ≠ "") with
  | some n => do return textLines (← Text.Markup.plainText ("  Legacy document: " ++ n))
  | none => .ok []

/-- The lines about the items. -/
def itemLines (c : Catalog) : Except Text.Markup.Fault (List Line) :=
  if c.items.isEmpty then .ok [.text "  Catalog is empty"] else tableLines c.items

/-- Lines with more after them, up to a fault. -/
def append (lines : List Line) (more : Except Text.Markup.Fault (List Line)) :
    List Line × Option Text.Markup.Fault :=
  match more with
  | .ok ls => (lines ++ ls, none)
  | .error e => (lines, some e)

/-- **The report** of a catalog after so many passes, and the fault that ends it early. -/
def report (c : Catalog) (runs : Nat) : List Line × Option Text.Markup.Fault :=
  let title := [Line.text "", .text s!"Catalog ({c.stats.items} item(s), run count {runs})"]
  match append title (documentLines c.stats.documentName) with
  | (lines, some e) => (lines, some e)
  | (lines, none) => append lines (itemLines c)

end ItemCatalog.Command
