import ItemCatalog.Text.Markup
import ItemCatalog.Value.Inspect
import ItemCatalog.Wording

/-! # Faults: why something did not happen

Some faults belong to the catalog: a text that could not be fetched or read, items that are there
already, a configuration that makes no sense, a catalog that is missing. Others come from the
surroundings. A fault is *fatal* if no stage may record it and go on: the memory is used up, a
collaborator says that the pass has to end, or the program is told to stop. -/

namespace ItemCatalog

/-- The kinds of ordinary faults that come from the surroundings. A kind that only a collaborator
knows has a name. -/
inductive FaultKind where
  | value
  | key
  | index
  | type
  | attribute
  | overflow
  | runtime
  | decoding
  | byteOrder
  | pattern
  | fileMissing
  | fileExists
  | notDirectory
  | isDirectory
  | permission
  | system
  | packageMissing
  | connection
  | status
  | redirects
  | address
  | protocol
  | lookup
  | structuredText
  | legacyText
  | validation
  | depth
  | named (name : String)
deriving DecidableEq, Repr, Inhabited

/-- The ways in which a program is told to stop: by its user, with an exit code, or in another way
that has a name. -/
inductive Signal where
  | interrupt
  | exit (code : Scalar)
  | named (name : String)
deriving DecidableEq, Repr, Inhabited

/-- Why something did not happen. The first kinds are those of a catalog: a text could not be
fetched or holds no items, items were there already (the others of their batch were added), a
setting makes no sense, there is no catalog. No stage may record that a collaborator says that the
pass has to end, that the memory is used up, or that the program is told to stop. All others are
ordinary faults of the surroundings. -/
inductive Fault where
  | fetch (uri message : String) (cause : Option Fault)
  | parse (detail : String) (source : Option String) (cause : Option Fault)
  | conflict (ids : List String) (added : List Item)
  | configuration (message : String) (cause : Option Fault)
  | unavailable (message : String)
  | catalog (message : String)
  | unrecoverable (message : String)
  | memory (message : String)
  | signal (signal : Signal) (message : String)
  | failure (kind : FaultKind) (message : String)
deriving Inhabited

namespace Fault

/-! ### Wording -/

/-- A text with the label of its source, if that is not empty. -/
def withSource (text : String) (source : Option String) : String :=
  match source with
  | some s => if s.isEmpty then text else s!"{text} (source: {s})"
  | none => text

/-- The wording of a conflict. -/
def conflictText (ids : List String) : String :=
  s!"Catalog already contains {ids.length} item(s) being added: " ++ ", ".intercalate ids ++
    ". Use force to replace existing items."

/-- **The wording** of a fault. -/
def message : Fault → String
  | .fetch _ m _ => m
  | .parse detail source _ => withSource detail source
  | .conflict ids _ => conflictText ids
  | .configuration m _ => m
  | .unavailable m => m
  | .catalog m => m
  | .unrecoverable m => m
  | .memory m => m
  | .signal _ m => m
  | .failure _ m => m

/-- The wording of the details that a fault is given: nothing, the only one, or all of them. -/
def detailText : List Value → String
  | [] => ""
  | [v] => v.display
  | vs => Value.inspectRow vs

/-- The wording of a fault of the system, by its number, its text and the names it is about. -/
def systemText (details : List Value) : String :=
  let about := fun number text => "[Errno " ++ Value.display number ++ "] " ++ Value.display text
  match details with
  | [number, text] => about number text
  | [number, text, .null] => about number text
  | [number, text, name] => about number text ++ ": " ++ name.inspect
  | [number, text, name, _] => about number text ++ ": " ++ name.inspect
  | [number, text, name, _, other] =>
    about number text ++ ": " ++ name.inspect ++ " -> " ++ other.inspect
  | vs => detailText vs

/-- A resource that could not be had, worded by its address if nothing else is said. -/
def unfetched (uri : String) (message : Option String) : Fault :=
  .fetch uri ((message.filter (· ≠ "")).getD s!"Unable to load resource '{uri}'") none

/-- The fault that led to this one. -/
def cause? : Fault → Option Fault
  | .fetch _ _ c => c
  | .parse _ _ c => c
  | .configuration _ c => c
  | _ => none

/-! ### Severity -/

/-- Whether no stage may record the fault and go on. -/
def isFatal : Fault → Bool
  | .unrecoverable _ => true
  | .memory _ => true
  | .signal _ _ => true
  | _ => false

/-- Whether the fault belongs to the catalog. -/
def isCatalogFault : Fault → Bool
  | .fetch .. => true
  | .parse .. => true
  | .conflict .. => true
  | .configuration .. => true
  | .unavailable _ => true
  | .catalog _ => true
  | _ => false

/-! ### Faults of readers -/

/-- The fault of a structured text, worded by its reader if the text breaks the rules of the
format. -/
def ofYaml (words : String) : Yaml.Fault → Fault
  | .malformed => .failure .structuredText words
  | .truthWord w => .failure .key (Yaml.Fault.message (.truthWord w))
  | .emptyNumber => .failure .index (Yaml.Fault.message .emptyNumber)
  | .notTimestamp => .failure .attribute (Yaml.Fault.message .notTimestamp)
  | .number .tooLarge => .failure .overflow (Yaml.Fault.message (.number .tooLarge))
  | e => .failure .value e.message

/-- The fault of a value that is not written out. -/
def overlong : Fault :=
  .failure .value (s!"Exceeds the limit ({Number.maxDigits} digits) for integer string " ++
    "conversion; " ++
    "use sys.set_int_max_str_digits() to increase the limit")

/-- The fault of a marked text whose tags do not fit. -/
def ofMarkup (e : Text.Markup.Fault) : Fault :=
  .failure (.named "MarkupError") e.message

/-- The fault of fields that describe no item, in the words of their reader. -/
def ofViolations (vs : List Violation) (w : Wording := .brief) : Fault :=
  .failure .validation (w.violations vs)

end Fault

end ItemCatalog
