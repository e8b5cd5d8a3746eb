import ItemCatalog.Value.Scalar

/-! # Values: the data of documents and configurations

A value is a scalar, a list, a pair, a set or a mapping; mappings keep the order of their keys. A
value that contains itself is written with a *knot*: every container on a cycle carries a label, and
where it comes again inside itself only the label stands. Going into such a container closes the
parts again, so that a part is a value of its own. -/

namespace ItemCatalog

/-- A value: a scalar, a list, a pair, which is the element of an ordered mapping, a set of scalars,
or a mapping in the order of its keys. A container on a cycle is under a label, by which it comes
again inside. -/
inductive Value where
  | scalar (s : Scalar)
  | list (items : List Value)
  | pair (first second : Value)
  | set (items : List Scalar)
  | map (entries : List (Scalar × Value))
  | knot (label : Nat) (body : Value)
  | again (label : Nat)
deriving Repr, Inhabited

/-- The entries of a mapping. -/
abbrev Entries := List (Scalar × Value)

namespace Value

/-- The absent value. -/
@[match_pattern] abbrev null : Value := .scalar .null

/-- The value of a text. -/
@[match_pattern] abbrev text (s : String) : Value := .scalar (.text s)

/-- The value of an integer. -/
@[match_pattern] abbrev int (n : Int) : Value := .scalar (.int n)

/-- The value of a truth value. -/
@[match_pattern] abbrev bool (b : Bool) : Value := .scalar (.bool b)

/-! ### Closing the parts of a knot -/

mutual

/-- The value with the container `whole` put back where its label comes again. -/
def close (label : Nat) (whole : Value) : Value → Value
  | .again l => if l = label then whole else .again l
  | .knot l body => if l = label then .knot l body else .knot l (close label whole body)
  | .list items => .list (closeAll label whole items)
  | .pair a b => .pair (close label whole a) (close label whole b)
  | .map entries => .map (closeEntries label whole entries)
  | .set items => .set items
  | .scalar s => .scalar s

/-- `close` on every value of a list. -/
def closeAll (label : Nat) (whole : Value) : List Value → List Value
  | [] => []
  | v :: vs => close label whole v :: closeAll label whole vs

/-- `close` on every value of a mapping. -/
def closeEntries (label : Nat) (whole : Value) : Entries → Entries
  | [] => []
  | (k, v) :: rest => (k, close label whole v) :: closeEntries label whole rest

end

/-- The container under a knot, with its parts closed. -/
def open? : Value → Value
  | .knot label body => close label (.knot label body) body
  | v => v

mutual

/-- Whether a value contains a container that contains itself. -/
def hasKnot : Value → Bool
  | .knot _ _ => true
  | .again _ => true
  | .list items => anyKnot items
  | .pair a b => hasKnot a || hasKnot b
  | .map entries => entriesKnot entries
  | .set _ => false
  | .scalar _ => false

/-- `hasKnot` for some value of a list. -/
def anyKnot : List Value → Bool
  | [] => false
  | v :: vs => hasKnot v || anyKnot vs

/-- `hasKnot` for some value of a mapping. -/
def entriesKnot : Entries → Bool
  | [] => false
  | (_, v) :: rest => hasKnot v || entriesKnot rest

end

/-! ### Equality -/

mutual

/-- Whether two values are the same in all their parts. -/
def beq : Value → Value → Bool
  | .scalar s, .scalar t => s = t
  | .list vs, .list ws => beqAll vs ws
  | .pair a b, .pair c d => beq a c && beq b d
  | .set ss, .set ts => ss = ts
  | .map es, .map fs => beqEntries es fs
  | .knot l v, .knot m w => l == m && beq v w
  | .again l, .again m => l == m
  | _, _ => false

/-- `beq` for the values of two lists. -/
def beqAll : List Value → List Value → Bool
  | [], [] => true
  | v :: vs, w :: ws => beq v w && beqAll vs ws
  | _, _ => false

/-- `beq` for the entries of two mappings. -/
def beqEntries : Entries → Entries → Bool
  | [], [] => true
  | (k, v) :: es, (l, w) :: fs => k = l && beq v w && beqEntries es fs
  | _, _ => false

end

mutual

theorem beq_iff : ∀ v w, beq v w = true ↔ v = w
  | .scalar s, w => by cases w <;> simp [beq]
  | .list vs, w => by cases w <;> simp [beq, beqAll_iff vs]
  | .pair a b, w => by cases w <;> simp [beq, beq_iff a, beq_iff b]
  | .set ss, w => by cases w <;> simp [beq]
  | .map es, w => by cases w <;> simp [beq, beqEntries_iff es]
  | .knot l v, w => by cases w <;> simp [beq, beq_iff v]
  | .again l, w => by cases w <;> simp [beq]

theorem beqAll_iff : ∀ vs ws, beqAll vs ws = true ↔ vs = ws
  | [], ws => by cases ws <;> simp [beqAll]
  | v :: vs, ws => by cases ws <;> simp [beqAll, beq_iff v, beqAll_iff vs]

theorem beqEntries_iff : ∀ es fs, beqEntries es fs = true ↔ es = fs
  | [], fs => by cases fs <;> simp [beqEntries]
  | (k, v) :: es, fs => by
    cases fs <;> simp [beqEntries, Prod.ext_iff, beq_iff v, beqEntries_iff es]

end

instance : DecidableEq Value := fun v w => decidable_of_iff (beq v w = true) (beq_iff v w)

/-! ### Views -/

/-- The text of a value that is one. -/
def asText? : Value → Option String
  | .text s => some s
  | _ => none

/-- The elements of a value that is a list. -/
def asList? (v : Value) : Option (List Value) :=
  match v.open? with
  | .list items => some items
  | _ => none

/-- The entries of a value that is a mapping. -/
def asMap? (v : Value) : Option Entries :=
  match v.open? with
  | .map entries => some entries
  | _ => none

/-- Whether a value counts as true: it is not null, false, zero or empty. -/
def isTruthy (v : Value) : Bool :=
  match v.open? with
  | .scalar s => s.isTruthy
  | .list items => !items.isEmpty
  | .set items => !items.isEmpty
  | .map entries => !entries.isEmpty
  | _ => true

end Value

/-! ### Mappings -/

namespace Entries

/-- The value under a key. -/
def find? (key : Scalar) : Entries → Option Value
  | [] => none
  | (k, v) :: rest => if k.same key then some v else find? key rest

/-- The value under a key that is a text. -/
def get? (entries : Entries) (key : String) : Option Value :=
  entries.find? (.text key)

/-- Whether a text is among the keys. -/
def has (entries : Entries) (key : String) : Bool :=
  (entries.get? key).isSome

/-- The mapping with a value under a key: in place if the key is there, else at the end. -/
def put (key : Scalar) (value : Value) : Entries → Entries
  | [] => [(key, value)]
  | (k, v) :: rest => if k.same key then (k, value) :: rest else (k, v) :: put key value rest

/-- The mapping with all entries of a second one put into it, in their order. -/
def merge (entries more : Entries) : Entries :=
  more.foldl (fun acc e => acc.put e.1 e.2) entries

end Entries

end ItemCatalog
