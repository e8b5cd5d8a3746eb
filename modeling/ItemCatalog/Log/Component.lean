import ItemCatalog.Log.Record
import ItemCatalog.Text.Case
import ItemCatalog.Value.Inspect

/-! # Component loggers: records in the style of a part of the library

A component puts its name, in title form, in front of what it says, and wraps the whole in the
markup of a style: its own colour, dimmed for details, or the style of a level with its sign. -/

namespace ItemCatalog.Log

/-- A part of the library that speaks under its own name, in the colour that was given for it. -/
structure Component where
  name : String
  color : Value := .text "white"
deriving Inhabited

namespace Component

/-- The name of the logger. -/
def logger (c : Component) : String :=
  knownName c.name

/-- A message in a style, behind a sign. -/
def styled (c : Component) (style sign message : String) : String :=
  let text := sign ++ Text.title c.name ++ ": " ++ message
  if style.isEmpty then text else "[" ++ style ++ "]" ++ text ++ "[/" ++ style ++ "]"

/-- The colour with a modifier in front. -/
def shade (c : Component) (modifier : String) : String :=
  modifier ++ " " ++ c.color.display

/-- A detail. -/
def debug (c : Component) (message : String) : Record :=
  ⟨Log.debug, c.logger, c.styled (c.shade "dim") "🔍 " message, none⟩

/-- An ordinary event. -/
def info (c : Component) (message : String) : Record :=
  ⟨Log.info, c.logger, c.styled c.color.display "" message, none⟩

/-- An event that stands out. -/
def keyInfo (c : Component) (message : String) : Record :=
  ⟨Log.info, c.logger, c.styled (c.shade "bold") "" message, none⟩

/-- Something that went well. -/
def success (c : Component) (message : String) : Record :=
  ⟨Log.info, c.logger, c.styled "bold green" "✅ " message, none⟩

/-- Something that may need attention, with the fault that it is about. -/
def warning (c : Component) (message : String) (fault : Option (Option Fault) := none) : Record :=
  ⟨Log.warning, c.logger, c.styled "bold yellow" "⚠️  " message, fault⟩

/-- A failure, with the fault that it is about. -/
def error (c : Component) (message : String) (fault : Option (Option Fault) := none) : Record :=
  ⟨Log.error, c.logger, c.styled "bold red" "❌ " message, fault⟩

/-- A failure that ends the program. -/
def critical (c : Component) (message : String) (fault : Option (Option Fault) := none) : Record :=
  ⟨Log.critical, c.logger, c.styled "bold red" "❌ " message, fault⟩

end Component

/-! ### The components of the library -/

/-- The catalog. -/
def catalog : Component := ⟨"catalog", .text "white"⟩

/-- The readers of documents. -/
def parsers : Component := ⟨"parsers", .text "white"⟩

/-- The loader of resources. -/
def resources : Component := ⟨"resources", .text "white"⟩

/-- The initialization of catalogs. -/
def initialization : Component := ⟨"CATALOG_INIT", .text "sky_blue2"⟩

/-- A plain record about the configuration. -/
def config (level : Int) (message : String) : Record :=
  ⟨level, "CONFIG", message, none⟩

end ItemCatalog.Log
