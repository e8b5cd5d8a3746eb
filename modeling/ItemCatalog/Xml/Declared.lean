import ItemCatalog.Xml.AttributeType
import ItemCatalog.Xml.ContentModel
import ItemCatalog.Xml.Uri

/-! # Declarations: what a legacy text says about itself

In front of its root a text may declare entities, which stand for texts, attributes with their types
and default values, and elements, of which only the form is checked. Declarations outside the text
are not read; if there are some, an entity may be unknown, unless the text says that it stands
alone. -/

namespace ItemCatalog.Xml

/-- What an entity stands for: a text of its own, a text outside, or something that is no text. -/
inductive Entity where
  | internal (text : List Char)
  | external
  | unparsed
deriving Repr, Inhabited

/-- A declared attribute of the elements of an owner, and its value where it is not given. -/
structure AttributeRule where
  owner : String
  label : String
  type : AttributeType
  default : Option String
deriving Repr, Inhabited

/-- The declarations of a text: its entities for content and for declarations, the first of a name
first, its attributes and elements, whether it says that it stands alone, and whether an entity may
be unknown, as there may be declarations that were not read. -/
structure Declarations where
  entities : List (String × Entity) := []
  parameters : List (String × Entity) := []
  rules : List AttributeRule := []
  elements : List String := []
  alone : Bool := false
  partly : Bool := false
deriving Repr, Inhabited

/-- The declarations of a text that has others outside. -/
def Declarations.withOutside (d : Declarations) : Declarations :=
  { d with partly := !d.alone }

/-- Whether an attribute of an element is declared as its identity. -/
def Declarations.identifies (d : Declarations) (owner label : String) : Bool :=
  (d.rules.find? fun r => r.owner == owner && r.label == label).any fun r => r.type == .identity

/-! ### Values of attributes -/

mutual

/-- The text of an entity inside the value of an attribute; `path` holds the entities around it. -/
def entityValue (d : Declarations) (path : List String) (n : String) : Nat → Option (List Char)
  | 0 => none
  | fuel + 1 =>
    match d.entities.lookup n with
    | some (.internal text) =>
      if path.contains n || text.contains '<' then none
      else valueChars d (n :: path) id text fuel
    | some _ => none
    | none => if d.partly then some [] else none

/-- The value that characters write, with every plain one under `plain`. -/
def valueChars (d : Declarations) (path : List String) (plain : Char → Char) :
    List Char → Nat → Option (List Char)
  | _, 0 => none
  | [], _ => some []
  | c :: cs, fuel + 1 =>
    if c = '<' || !isChar c then none
    else if c = '&' then do
      let (r, rest) ← reference cs
      match r with
      | .char x => return x :: (← valueChars d path plain rest fuel)
      | .entity n => return (← entityValue d path n fuel) ++ (← valueChars d path plain rest fuel)
    else do return plain c :: (← valueChars d path plain cs fuel)

end

/-- A separator as a space. -/
def spaced (c : Char) : Char :=
  if isSpace c then ' ' else c

/-- The fuel for reading values of a text of a length: an entity may stand inside another. -/
def valueFuel (d : Declarations) (length : Nat) : Nat :=
  let texts := d.entities.map fun e => match e.2 with
    | .internal t => t.length + 2
    | _ => 2
  (length + texts.foldl (· + ·) 0 + 2) * (d.entities.length + 2)

/-- The value of an attribute, between its quotes. -/
def attributeValue (d : Declarations) : Reader (List Char) := fun cs => do
  let (body, rest) ← quotedText cs
  return (← valueChars d [] spaced body (valueFuel d body.length), rest)

/-! ### Declarations -/

/-- Whether every reference in the text of an entity is one, with character references resolved. -/
def entityText : Nat → List Char → Option (List Char)
  | 0, _ => none
  | _, [] => some []
  | fuel + 1, c :: cs =>
    if c = '%' || !isChar c then none
    else if c = '&' then
      match cs with
      | '#' :: _ => do
        match ← reference cs with
        | (.char x, rest) => return x :: (← entityText fuel rest)
        | (.entity _, _) => none
      | _ => do
        let (n, rest) ← name cs
        let rest ← after [';'] rest
        return '&' :: n ++ ';' :: (← entityText fuel rest)
    else do return c :: (← entityText fuel cs)

/-- Whether a character may stand in a public name. -/
def isPublicChar (c : Char) : Bool :=
  c.isAlphanum || " \r\n-'()+,./:=?;!*#@$_%".toList.contains c

/-- A public name, in quotes. -/
def publicName : Reader (List Char) := fun cs => do
  let (body, rest) ← quotedText cs
  if body.all isPublicChar then some (body, rest) else none

/-- The address of something in the system, in quotes. -/
def systemAddress : Reader (List Char) := fun cs => do
  let (body, rest) ← quotedText cs
  if body.all isChar then some (body, rest) else none

/-- The address of something outside. -/
def externalAddress : Reader (List Char) := fun cs =>
  match afterWord "SYSTEM" cs, afterWord "PUBLIC" cs with
  | some rest, _ => do systemAddress (← someSpace rest)
  | none, some rest => do
    let (_, rest) ← publicName (← someSpace rest)
    systemAddress (← someSpace rest)
  | none, none => none

/-- What a declared entity stands for. -/
def entityContent (cs : List Char) : Option (Entity × List Char) :=
  match externalAddress cs with
  | some (uri, rest) =>
    if !Uri.isUri uri || uri.contains '#' then none
    else match (someSpace rest).bind (afterWord "NDATA") with
      | some tail => do return (.unparsed, (← name (← someSpace tail)).2)
      | none => some (.external, rest)
  | none => do
    let (body, rest) ← quotedText cs
    return (.internal (← entityText (body.length + 1) body), rest)

/-- The end of a declaration. -/
def declarationEnd (cs : List Char) : Option (List Char) :=
  after ['>'] (skipSpace cs)

/-- The declaration of an entity. -/
def entityDeclaration (d : Declarations) (cs : List Char) : Option (Declarations × List Char) := do
  let cs ← someSpace cs
  let (parameter, cs) ← match after ['%'] cs with
    | some rest => (someSpace rest).map fun rest => (true, rest)
    | none => some (false, cs)
  let (n, cs) ← name cs
  if n.contains ':' then none
  else do
    let (content, cs) ← entityContent (← someSpace cs)
    let rest ← declarationEnd cs
    let entry := (String.ofList n, content)
    if parameter then return ({ d with parameters := d.parameters ++ [entry] }, rest)
    else return ({ d with entities := d.entities ++ [entry] }, rest)

/-- The default of an attribute. -/
def attributeDefault (d : Declarations) (cs : List Char) :
    Option (Option (List Char) × List Char) :=
  match afterWord "#REQUIRED" cs, afterWord "#IMPLIED" cs, afterWord "#FIXED" cs with
  | some rest, _, _ => some (none, rest)
  | _, some rest, _ => some (none, rest)
  | _, _, some rest => do
    let (v, rest) ← attributeValue d (← someSpace rest)
    return (some v, rest)
  | none, none, none => do
    let (v, rest) ← attributeValue d cs
    return (some v, rest)

/-- Whether a rule can be added: its default fits its type, the attribute that is always an identity
is declared as one, and no element has two identities. -/
def Declarations.accepts (d : Declarations) (r : AttributeRule) : Bool :=
  (r.default.all fun v => r.type.admits v.toList) &&
    (r.label != "xml:id" || r.type == .identity) &&
    (r.type != .identity ||
      d.rules.all fun q => q.owner != r.owner || q.label == r.label || q.type != .identity)

/-- The attributes of an element. -/
def attributeRules (element : String) : Nat → Declarations → List Char →
    Option (Declarations × List Char)
  | 0, _, _ => none
  | fuel + 1, d, cs =>
    match declarationEnd cs with
    | some rest => some (d, rest)
    | none => do
      let (n, cs) ← name (← someSpace cs)
      let (type, cs) ← AttributeType.read (← someSpace cs)
      let (value, cs) ← attributeDefault d (← someSpace cs)
      let value := value.map fun v => String.ofList (type.normalize v)
      let rule : AttributeRule := ⟨element, String.ofList n, type, value⟩
      if d.accepts rule then attributeRules element fuel { d with rules := d.rules ++ [rule] } cs
      else none

/-- The declaration of an element, which may not be declared twice. -/
def elementDeclaration (d : Declarations) (cs : List Char) :
    Option (Declarations × List Char) := do
  let (n, cs) ← name (← someSpace cs)
  let rest ← declarationEnd (← ContentModel.read (← someSpace cs))
  let n := String.ofList n
  if d.elements.contains n then none else some ({ d with elements := n :: d.elements }, rest)

/-- The declaration of a notation, about which nothing is kept. -/
def notationDeclaration (cs : List Char) : Option (List Char) := do
  let (n, cs) ← name (← someSpace cs)
  let cs ← someSpace cs
  if n.contains ':' then none
  else match externalAddress cs with
    | some (_, rest) => declarationEnd rest
    | none => do declarationEnd (← publicName (← someSpace (← afterWord "PUBLIC" cs))).2

/-- The declarations up to the closing bracket, or up to the end of an entity if `inner`. -/
def declarations (inner : Bool) : Nat → Declarations → List Char →
    Option (Declarations × List Char)
  | 0, _, _ => none
  | fuel + 1, d, cs =>
    match skipSpace cs with
    | [] => if inner then some (d, []) else none
    | ']' :: rest => if inner then none else some (d, rest)
    | '%' :: rest => do
      let (n, rest) ← name rest
      let rest ← after [';'] rest
      let d' := d.withOutside
      match d.parameters.lookup (String.ofList n) with
      | some (.internal text) =>
        let (d', _) ← declarations true fuel d' text
        declarations inner fuel d' rest
      | some _ => declarations inner fuel d' rest
      | none => if d.alone then none else declarations inner fuel d' rest
    | cs =>
      match afterWord "<!--" cs, afterWord "<?" cs, afterWord "<!ENTITY" cs,
          afterWord "<!ATTLIST" cs with
      | some rest, _, _, _ => do declarations inner fuel d (← comment rest)
      | _, some rest, _, _ => do declarations inner fuel d (← instruction rest)
      | _, _, some rest, _ => do
        let (d, rest) ← entityDeclaration d rest
        declarations inner fuel d rest
      | _, _, _, some rest => do
        let (element, rest) ← name (← someSpace rest)
        let (d, rest) ← attributeRules (String.ofList element) (rest.length + 1) d rest
        declarations inner fuel d rest
      | none, none, none, none =>
        match afterWord "<!ELEMENT" cs with
        | some rest => do
          let (d, rest) ← elementDeclaration d rest
          declarations inner fuel d rest
        | none => do
          declarations inner fuel d (← notationDeclaration (← afterWord "<!NOTATION" cs))

/-- The declarations of a text, after their opening word. -/
def documentType (alone : Bool) (cs : List Char) : Option (Declarations × List Char) := do
  let (_, cs) ← name (← someSpace cs)
  let d : Declarations := { alone }
  let (d, cs) := match (someSpace cs).bind externalAddress with
    | some (_, rest) => (d.withOutside, rest)
    | none => (d, cs)
  match skipSpace cs with
  | '[' :: rest => do
    let (d, rest) ← declarations false (2 * rest.length + 2) d rest
    return (d, ← declarationEnd rest)
  | cs => return (d, ← after ['>'] cs)

end ItemCatalog.Xml
