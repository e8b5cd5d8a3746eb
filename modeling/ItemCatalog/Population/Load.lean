import ItemCatalog.Catalog.Basic
import ItemCatalog.Population.Source

/-! # Loads: the initial catalog from one text

A text is tried as a structured text, into an emptied catalog, and if that does not succeed as a
legacy document, which replaces the catalog. What goes wrong is recorded, the first problem only,
and there is a warning about it if nothing was loaded; what no stage may record ends the load. -/

namespace ItemCatalog.Population

/-- What a load did: the address and the forms of text that could be tried, the items of a
structured text or a legacy document, and the first problem. -/
structure LoadResult where
  uri : String
  mode : PopulateMode
  items : Option (List Item) := none
  document : Option Document.LegacyDocument := none
  problem : Option Fault := none
deriving Inhabited

namespace LoadResult

/-- Whether something was loaded. -/
def succeeded (r : LoadResult) : Bool :=
  r.items.isSome || r.document.isSome

/-- The result with a problem recorded, unless one is already. -/
def note (r : LoadResult) (e : Fault) : LoadResult :=
  { r with problem := r.problem.or (some e) }

end LoadResult

/-- A load on its way: the result so far, the catalog and what was said. -/
structure Load where
  result : LoadResult
  catalog : Catalog
  log : List Log.Record := []
deriving Inhabited

namespace Load

/-- The note about the start of a load. -/
def startNote (uri : String) : Log.Record :=
  Log.initialization.debug s!"Loading initial catalog from {uri}"

/-- Tries a structured text, in an emptied catalog. -/
def tryStructured (w : Wording) (l : Load) (text : String) : Load :=
  let (added, catalog) := Catalog.empty.addItems text false (some l.result.uri) w
  let log := l.log ++ [Catalog.empty.resetNote]
  match added with
  | .ok items => { result := { l.result with items := some items }, catalog, log }
  | .error e => { result := l.result.note e, catalog, log }

/-- Tries a legacy document. -/
def tryLegacy (w : Wording) (l : Load) (text : String) : Load :=
  match Document.legacyDocument text (some l.result.uri) w with
  | (.ok d, log) =>
    let catalog := Catalog.ofDocument d
    { result := { l.result with document := some d }, catalog
      log := l.log ++ log ++ [catalog.resetNote] }
  | (.error e, log) => { l with result := l.result.note e, log := l.log ++ log }

/-- Tries the forms of text that the mode allows. -/
def attempts (w : Wording) (l : Load) (text : String) : Load :=
  let l := if l.result.mode.allowsYaml then l.tryStructured w text else l
  if l.result.items.isNone && l.result.mode.allowsXml then l.tryLegacy w text else l

/-- What is said at the end of a load. -/
def endNotes (r : LoadResult) : List Log.Record :=
  match r.items, r.document, r.problem with
  | some items, _, _ =>
    [Log.initialization.debug s!"Loaded initial catalog from {r.uri}: {items.length} item(s)"]
  | none, some d, problem =>
    [Log.initialization.debug
      (s!"Loaded legacy initial catalog from {r.uri}: {d.items.length} item(s)" ++
        (problem.map fun e => " (structured parse failed first: " ++ e.message ++ ")").getD "")]
  | none, none, some e =>
    [Log.initialization.warning (s!"Error importing catalog from {r.uri}: " ++ e.message)
      (some (some e))]
  | none, none, none => []

/-- The load with its end said. -/
def finish (l : Load) : Load :=
  { l with log := l.log ++ endNotes l.result }

end Load

/-- **Loads a text**, or what was found in its place, into a catalog. -/
def loadInitial (c : Catalog) (uri : String) (mode : PopulateMode) (content : Except Fault String)
    (w : Wording := .brief) : Except Fault LoadResult × Catalog × List Log.Record :=
  let start : Load := { result := { uri, mode }, catalog := c }
  match content with
  | .ok text =>
    let l := (start.attempts w text).finish
    (.ok l.result, l.catalog, l.log)
  | .error e =>
    if e.isFatal then (.error e, c, [])
    else
      let l := { start with result := start.result.note e }.finish
      (.ok l.result, l.catalog, l.log)

end ItemCatalog.Population
