import ItemCatalog.Item.Basic
import ItemCatalog.Value.Inspect

/-! # Validation: from fields to an item

A field may be given under its short key or its long one; the short one wins. Symbolic name and
version may be numbers, which stand for their texts unless these are too long, and the symbolic name
may not be empty; the optional texts may be null. Every field is checked, and the violations are
reported together, in the order of the fields and under the keys that were used, each with the value
that was checked. -/

namespace ItemCatalog

/-- What is wrong with a field. Its value may be bytes that are no text, or an integer of more
digits than are written out. -/
inductive Defect where
  | missing
  | notText
  | notUnicode
  | overlong
  | tooShort
  | notType
deriving DecidableEq, Repr

/-- The word for a defect. -/
def Defect.name : Defect → String
  | .missing => "missing"
  | .notText => "string_type"
  | .notUnicode => "string_unicode"
  | .overlong => "value_error"
  | .tooShort => "string_too_short"
  | .notType => "enum"

/-- A field that is wrong: the key under which it was given, what is wrong with it, and the value
that was checked. Where a field is missing, this is the whole mapping. -/
structure Violation where
  key : String
  defect : Defect
  input : Value
deriving DecidableEq, Repr

/-! ### Fields -/

/-- A field under the first of its keys that is given. -/
def field? (fields : Entries) : List String → Option (String × Value)
  | [] => none
  | key :: keys =>
    match fields.get? key with
    | some v => some (key, v)
    | none => field? fields keys

/-- The text of a value that is a text or the bytes of one. -/
def textOf (v : Value) : Except Defect String :=
  match v with
  | .scalar (.text s) => .ok s
  | .scalar (.bytes bs) =>
    match String.fromUTF8? ⟨bs.toArray⟩ with
    | some s => .ok s
    | none => .error .notUnicode
  | _ => .error .notText

/-- The text of a value that may be a number. -/
def spellingOf (v : Value) : Except Defect String :=
  match v with
  | .scalar (.int n) =>
    if Value.overlongScalar (.int n) then .error .overlong else .ok (Number.renderInt n)
  | .scalar (.float x) => .ok (Number.renderFloat x)
  | v => textOf v

/-- A check of a field: its value, or the violation it makes. -/
abbrev Checked (α : Type) := Except Violation α

/-- The outcome of the check of a value under a key. -/
def underKey {α : Type} (key : String) (v : Value) (r : Except Defect α) : Checked α :=
  r.mapError fun d => ⟨key, d, v⟩

/-- The symbolic name. -/
def checkName (fields : Entries) : Checked String :=
  match field? fields ["id", "symbolic_name"] with
  | none => .error ⟨"id", .missing, .map fields⟩
  | some (key, v) => underKey key v do
    let s ← spellingOf v
    if s.isEmpty then .error .tooShort else .ok s

/-- The version. -/
def checkVersion (fields : Entries) : Checked String :=
  match field? fields ["version"] with
  | none => .ok defaultVersion
  | some (key, v) => underKey key v (spellingOf v)

/-- A text that may be absent or null. -/
def checkText (fields : Entries) (keys : List String) : Checked (Option String) :=
  match field? fields keys with
  | none => .ok none
  | some (_, .null) => .ok none
  | some (key, v) => underKey key v (some <$> textOf v)

/-- The kind. -/
def checkType (fields : Entries) : Checked ItemType :=
  match field? fields ["item_type"] with
  | none => .ok .entity
  | some (key, v) =>
    match textOf v with
    | .ok s => underKey key v ((ItemType.ofName? s).elim (.error .notType) .ok)
    | .error _ => .error ⟨key, .notType, v⟩

/-- The body. -/
def planOf (fields : Entries) : Value :=
  ((field? fields ["item", "plan"]).map (·.2)).getD .null

/-! ### Items -/

/-- The violation of a check, if it makes one. -/
def violationOf {α : Type} : Checked α → List Violation
  | .ok _ => []
  | .error v => [v]

/-- **The item** that fields describe, or everything that is wrong with them. -/
def Item.validate (fields : Entries) : Except (List Violation) Item :=
  let name := checkName fields
  let version := checkVersion fields
  let displayName := checkText fields ["name", "display_name"]
  let description := checkText fields ["description"]
  let itemType := checkType fields
  let source := checkText fields ["source"]
  match name, version, displayName, description, itemType, source with
  | .ok n, .ok v, .ok d, .ok t, .ok k, .ok s => .ok ⟨n, v, d, t, k, planOf fields, s⟩
  | _, _, _, _, _, _ =>
    .error (violationOf name ++ violationOf version ++ violationOf displayName ++
      violationOf description ++ violationOf itemType ++ violationOf source)

end ItemCatalog
