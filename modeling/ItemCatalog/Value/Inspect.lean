import ItemCatalog.Number.Read
import ItemCatalog.Value.Basic

/-! # Inspected values: how a value is shown inside messages

A list stands in square brackets, a pair in round ones, a mapping and a set in braces; the parts are
shown in their inspected form. A container that comes again inside itself is shown by dots. An
integer of too many digits is not written out. -/

namespace ItemCatalog.Value

/-- The dots that stand for a container inside itself. -/
def dots : Value → String
  | .list _ => "[...]"
  | .pair _ _ => "(...)"
  | _ => "\x7b...\x7d"

/-- The dots of a label among the containers that enclose it. -/
def dotsOf (path : List (Nat × String)) (label : Nat) : String :=
  (path.lookup label).getD "[...]"

mutual

/-- The inspected form inside the containers `path`. -/
def inspectIn (path : List (Nat × String)) : Value → String
  | .scalar s => s.inspect
  | .list items => "[" ++ ", ".intercalate (inspectAll path items) ++ "]"
  | .pair a b => "(" ++ inspectIn path a ++ ", " ++ inspectIn path b ++ ")"
  | .set items =>
    if items.isEmpty then "set()"
    else "\x7b" ++ ", ".intercalate (items.map Scalar.inspect) ++ "\x7d"
  | .map entries => "\x7b" ++ ", ".intercalate (inspectEntries path entries) ++ "\x7d"
  | .knot label body => inspectIn ((label, dots body) :: path) body
  | .again label => dotsOf path label

/-- The inspected forms of a list of values. -/
def inspectAll (path : List (Nat × String)) : List Value → List String
  | [] => []
  | v :: vs => inspectIn path v :: inspectAll path vs

/-- The inspected forms of the entries of a mapping. -/
def inspectEntries (path : List (Nat × String)) : Entries → List String
  | [] => []
  | (k, v) :: rest => (k.inspect ++ ": " ++ inspectIn path v) :: inspectEntries path rest

end

/-- **The inspected form** of a value. -/
def inspect (v : Value) : String :=
  inspectIn [] v

/-- The form in which a value stands for itself: a scalar plainly, a container inspected. -/
def display : Value → String
  | .scalar s => s.display
  | v => v.inspect

/-- The inspected form of a row of values: in round brackets, with a comma after a single one. -/
def inspectRow : List Value → String
  | [v] => "(" ++ v.inspect ++ ",)"
  | vs => "(" ++ ", ".intercalate (vs.map inspect) ++ ")"

/-! ### Integers that are not written out -/

/-- Whether a scalar is an integer of more digits than are written out. -/
def overlongScalar : Scalar → Bool
  | .int n => Nat.pow 10 Number.maxDigits ≤ n.natAbs
  | _ => false

mutual

/-- Whether a value is or holds an integer of more digits than are written out. -/
def isOverlong : Value → Bool
  | .scalar s => overlongScalar s
  | .list items => anyOverlong items
  | .pair a b => isOverlong a || isOverlong b
  | .set items => items.any overlongScalar
  | .map entries => entriesOverlong entries
  | .knot _ body => isOverlong body
  | .again _ => false

/-- `isOverlong` for some value of a list. -/
def anyOverlong : List Value → Bool
  | [] => false
  | v :: vs => isOverlong v || anyOverlong vs

/-- `isOverlong` for some key or value of a mapping. -/
def entriesOverlong : Entries → Bool
  | [] => false
  | (k, v) :: rest => overlongScalar k || isOverlong v || entriesOverlong rest

end

end ItemCatalog.Value
