import ItemCatalog.Log.Record
import ItemCatalog.Text.Pattern.Read
import ItemCatalog.Value.Fill

/-! # Filters: records that are kept back

A filter looks at the records of some loggers at some levels, or of all where it names none; every
other record passes. Of those that it looks at, it keeps back the ones whose message a pattern
finds, and lets the others pass; an inverted filter does the opposite. Without patterns every
message counts as found. -/

namespace ItemCatalog.Log

/-- The fault of values that do not fit the marks of a message. -/
def fillFault (e : Value.FillFault) : Fault :=
  let kind : FaultKind := match e with
    | .incomplete | .incompleteKey | .unknownLetter .. | .tooWide | .tooLong | .undefined => .value
    | .noKey _ => .key
    | .noCodePoint | .infinite => .overflow
    | _ => .type
  .failure kind e.message

/-- **The message** of a text with values in the place of its marks. -/
def messageOf (text : String) (values : List Value) : Except Fault String :=
  (Value.fill text values).mapError fillFault

/-- The pattern of a text, or the fault that it writes none. -/
def patternOf (text : String) : Except Fault Text.Pattern :=
  (Text.Pattern.ofText text).mapError fun (c, place) =>
    let kind : FaultKind := if c = .tooManyRounds then .overflow else .pattern
    .failure kind (c.message text place)

/-- A filter by loggers and levels, of which none stand for all, and by patterns, which come with
their texts. An inverted one lets pass what it would keep back. -/
structure Filter where
  loggers : List String := []
  levels : List Int := []
  patterns : List (String × Text.Pattern) := []
  inverted : Bool := false
deriving Inhabited

namespace Filter

/-- **The filter** of loggers, levels and the texts of patterns. -/
def make (loggers : List String) (levels : List Int) (patterns : List String)
    (inverted : Bool := false) : Except Fault Filter := do
  let patterns ← patterns.mapM fun text => return (text, ← patternOf text)
  return ⟨loggers.eraseDups, levels.eraseDups, patterns, inverted⟩

/-- Whether a filter looks at the records of a logger at a level. -/
def covers (f : Filter) (logger : String) (level : Int) : Bool :=
  (f.loggers.isEmpty || f.loggers.contains logger)
    && (f.levels.isEmpty || f.levels.contains level)

/-- Whether the patterns find a message. -/
def finds (f : Filter) (message : String) : Bool :=
  f.patterns.any fun p => p.2.isFoundIn message

/-- **Whether a record passes.** -/
def passes (f : Filter) (logger : String) (level : Int) (message : Except Fault String) :
    Except Fault Bool := do
  if !f.covers logger level then return true
  if f.patterns.isEmpty then return f.inverted
  return f.finds (← message) == f.inverted

/-- The quoted texts of a list, in square brackets. -/
def quotedList (xs : List String) : String :=
  "[" ++ ", ".intercalate (xs.map Text.quote) ++ "]"

/-- The inspected form, which tells what a filter looks at. -/
def inspect (f : Filter) : String :=
  let part := fun (name : String) (xs : List String) =>
    if xs.isEmpty then [] else [name ++ "=" ++ quotedList xs]
  let parts := part "loggers" (f.loggers.mergeSort fun a b => a ≤ b)
    ++ part "levels" ((f.levels.mergeSort fun a b => a ≤ b).map levelName)
    ++ part "patterns" (f.patterns.map Prod.fst)
    ++ (if f.inverted then ["inverted=True"] else [])
  "LoggerFilter(" ++ (if parts.isEmpty then "no criteria" else ", ".intercalate parts) ++ ")"

end Filter

end ItemCatalog.Log
