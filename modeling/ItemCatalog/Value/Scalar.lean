import ItemCatalog.Calendar.Instant
import ItemCatalog.Number.Render
import ItemCatalog.Text.Quoted

/-! # Scalars: values without parts

A scalar is what a key of a mapping or a member of a set can be. `same` is the comparison of keys:
truth values count as the integers one and zero, integers and floating-point numbers are compared by
value, and instants by moment. A scalar has a plain form, in which it stands for itself, and an
inspected form, in which texts are quoted. -/

namespace ItemCatalog

open Text Number Calendar

/-- A value without parts. -/
inductive Scalar where
  | null
  | bool (b : Bool)
  | int (n : Int)
  | float (x : Binary64)
  | text (s : String)
  | bytes (bs : List UInt8)
  | date (d : Date)
  | instant (t : Instant)
deriving DecidableEq, Repr, Inhabited

namespace Scalar

/-- The integer that a scalar counts as. -/
def asInt? : Scalar → Option Int
  | .bool b => some (if b then 1 else 0)
  | .int n => some n
  | _ => none

/-- Whether two scalars are the same key. -/
def same (a b : Scalar) : Bool :=
  match a.asInt?, b.asInt?, a, b with
  | some m, some n, _, _ => m == n
  | some m, none, _, .float y => y.sameInt m
  | none, some n, .float x, _ => x.sameInt n
  | _, _, .float x, .float y => x.same y || (x == .nan && y == .nan)
  | _, _, .instant t, .instant u => t.same u
  | _, _, a, b => a == b

/-- Whether a scalar counts as true. -/
def isTruthy : Scalar → Bool
  | .null => false
  | .bool b => b
  | .int n => n != 0
  | .float x => !x.isZero
  | .text s => s != ""
  | .bytes bs => !bs.isEmpty
  | .date _ | .instant _ => true

/-! ### Forms -/

/-- The inspected form of an offset. -/
def inspectOffset (minutes : Int) : String :=
  if minutes = 0 then "datetime.timezone.utc" else s!"datetime.timezone({spanText minutes})"

/-- The inspected form of an instant. -/
def inspectInstant (t : Instant) : String :=
  let late := if t.micro ≠ 0 then [t.second, t.micro] else if t.second ≠ 0 then [t.second] else []
  let parts := ([t.date.year, t.date.month, t.date.day, t.hour, t.minute] ++ late).map
    fun (n : Nat) => renderInt n
  let offset := match t.offset with
    | some m => [s!"tzinfo={inspectOffset m}"]
    | none => []
  "datetime.datetime(" ++ ", ".intercalate (parts ++ offset) ++ ")"

/-- The form in which a scalar is shown inside messages and containers. -/
def inspect : Scalar → String
  | .null => "None"
  | .bool b => if b then "True" else "False"
  | .int n => renderInt n
  | .float x => renderFloat x
  | .text s => quote s
  | .bytes bs => quoteBytes bs
  | .date d => s!"datetime.date({d.year}, {d.month}, {d.day})"
  | .instant t => inspectInstant t

/-- The form in which a scalar stands for itself. -/
def display : Scalar → String
  | .text s => s
  | .date d => d.render
  | .instant t => t.render ' '
  | s => s.inspect

end Scalar

end ItemCatalog
