import ItemCatalog.Calendar.Date
import ItemCatalog.Number.Read

/-! # Faults of structured documents: why a text has no value

A text that breaks the rules of the format is *malformed*. Besides, a scalar can be written for a
type that it does not fit; such a fault keeps the cause that the reader of the type gives. -/

namespace ItemCatalog.Yaml

open Text Number Calendar

/-- Why a text has no value: it breaks the rules of the format; an escape names a code point beyond
the last one; a number, a truth value or a date is not written as one, or the date does not exist;
or an integer has no character. -/
inductive Fault where
  | malformed
  | codePoint
  | number (cause : NumberFault)
  | emptyNumber
  | truthWord (word : String)
  | calendar (cause : CalendarFault)
  | notTimestamp
deriving DecidableEq, Repr

/-- The wording of a fault. -/
def Fault.message : Fault → String
  | .malformed => "<yaml error>"
  | .codePoint => "chr() arg not in range(0x110000)"
  | .number cause => cause.message
  | .emptyNumber => "string index out of range"
  | .truthWord word => quote word
  | .calendar cause => cause.message
  | .notTimestamp => "'NoneType' object has no attribute 'groupdict'"

end ItemCatalog.Yaml
