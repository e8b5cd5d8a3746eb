import ItemCatalog.Command.Run

/-! # Screens: how a run is shown

The lines of a run are written as they are; the rows of its table in columns, each as wide as its
widest cell. What was said comes with the name of its level, without styles. -/

namespace ItemCatalog.Command

/-- The cells of a line. -/
def Line.cells : Line → List String
  | .text _ => []
  | .row cells => cells

/-- The widths of the columns of lines. -/
def columnWidths (lines : List Line) : List Nat :=
  (List.range columnNames.length).map fun n =>
    (lines.map fun l => (l.cells[n]?.getD "").length).foldl max 0

/-- A text with blanks up to a width. -/
def padTo (width : Nat) (s : String) : String :=
  s ++ blanks (width - s.length)

/-- A line as it is written, with columns of such widths. -/
def Line.write (widths : List Nat) : Line → String
  | .text s => s
  | .row cells => trimEnd ("  ".intercalate (widths.zipWith padTo cells))

/-- The text of lines. -/
def writeLines (lines : List Line) : String :=
  joinLines (lines.map (·.write (columnWidths lines)))

/-- The text of a record. -/
def writeRecord (r : Log.Record) : String :=
  let text := (Text.Markup.plainText r.text).toOption.getD r.text
  padTo 8 (Log.levelName r.level) ++ " " ++ text

/-- **The exit code** of a run as a number: that of its end if it is a small number, zero if there
is none, and one for anything else. -/
def Ending.status (e : Ending) : UInt32 :=
  match e.code with
  | .null => 0
  | .int n => UInt32.ofNat (n % 256).toNat
  | _ => 1

end ItemCatalog.Command
