import ItemCatalog.Proofs.Value.Keys
import ItemCatalog.Proofs.Yaml.Tokens
import ItemCatalog.Yaml.Load

/-! # Faults of documents: why a text has no value

The tokens of a text are read as a graph, and its nodes are given their values. Reading the graph
fails over a text that breaks the rules, or runs into the fault at which the scan ended
(`ofText_faults`). Giving values fails over a document that breaks the rules, or over a misfit: a
text of a scalar that does not fit the type of a node (`Graph.value_faults`). So a text without a
value is malformed, names a code point beyond the last one, or holds a misfit (`load_faults`). On
the way a mapping is given no key twice, and a scalar whose type is one of texts nothing but the
value of its text (`Build.Sound`). -/

namespace ItemCatalog.Yaml

/-! ### Computations that may end with a fault -/

/-- From states with a property, a computation ends in such a state with a result of a kind, or with
a fault of a kind. -/
def Ends {σ ε α : Type} (I : σ → Prop) (P : ε → Prop) (Q : α → Prop)
    (p : StateT σ (Except ε) α) : Prop :=
  ∀ s, I s → match p.run s with
    | .ok (a, t) => Q a ∧ I t
    | .error e => P e

namespace Ends

variable {σ ε α β : Type} {I : σ → Prop} {P : ε → Prop} {Q : α → Prop} {R : β → Prop}
  {p : StateT σ (Except ε) α} {f : α → StateT σ (Except ε) β}

theorem pure {a : α} (h : Q a) : Ends I P Q (pure a : StateT σ (Except ε) α) :=
  fun _ hs => ⟨h, hs⟩

theorem throw {e : ε} (h : P e) : Ends I P Q (throw e : StateT σ (Except ε) α) :=
  fun _ _ => h

theorem bind (hp : Ends I P Q p) (hf : ∀ a, Q a → Ends I P R (f a)) : Ends I P R (p >>= f) := by
  intro s hs
  have h := hp s hs
  rw [StateT.run_bind]
  rcases hrun : p.run s with e | ⟨a, t⟩ <;> rw [hrun] at h
  · exact h
  · exact hf a h.1 t h.2

/-- The state that is looked at has the property. -/
theorem get : Ends I P I (get : StateT σ (Except ε) σ) := fun _ hs => ⟨hs, hs⟩

theorem set {s : σ} (h : I s) : Ends I P (fun _ => True) (set s : StateT σ (Except ε) PUnit) :=
  fun _ _ => ⟨trivial, h⟩

theorem modify {g : σ → σ} (hg : ∀ s, I s → I (g s)) :
    Ends I P (fun _ => True) (modify g : StateT σ (Except ε) PUnit) :=
  fun s hs => ⟨trivial, hg s hs⟩

theorem mono {Q' : α → Prop} (hQ : ∀ a, Q a → Q' a) (hp : Ends I P Q p) : Ends I P Q' p := by
  intro s hs
  have h := hp s hs
  rcases hrun : p.run s with e | ⟨a, t⟩ <;> rw [hrun] at h
  · exact h
  · exact ⟨hQ a h.1, h.2⟩

theorem ite {b : Prop} [Decidable b] {q : StateT σ (Except ε) α} (hp : Ends I P Q p)
    (hq : Ends I P Q q) : Ends I P Q (if b then p else q) := by
  split
  · exact hp
  · exact hq

/-- A lifted result ends as it says. -/
theorem lift {r : Except ε α} (h : ∀ e, r = .error e → P e) :
    Ends I P (fun a => r = .ok a) (liftM r : StateT σ (Except ε) α) := by
  cases r with
  | error e => exact throw (h e rfl)
  | ok a => exact pure rfl

/-- A loop ends as its rounds do, by induction on the list. -/
theorem forIn {γ : Type} {l : List γ} {g : γ → β → StateT σ (Except ε) (ForInStep β)} {b : β}
    (hb : R b) (hg : ∀ c b, R b → Ends I P (fun r => R r.value) (g c b)) :
    Ends I P R (forIn l b g) := by
  induction l generalizing b with
  | nil => exact pure hb
  | cons c l ih =>
    rw [List.forIn_cons]
    refine (hg c b hb).bind fun r hr => ?_
    cases r with
    | done b => exact pure hr
    | yield b => exact ih hr

/-- The fault of a computation whose result is always used. -/
theorem fault {γ : Type} {k : α × σ → Except ε γ} {s : σ} {e : ε} (hp : Ends I P Q p) (hs : I s)
    (hk : ∀ r, k r ≠ .error e) (h : p.run s >>= k = .error e) : P e := by
  have hend := hp s hs
  rcases hrun : p.run s with e' | r <;> rw [hrun] at h hend
  · cases h
    exact hend
  · exact absurd h (hk r)

/-- The result of what a computation goes on with. -/
theorem result {γ : Type} {S : γ → Prop} {k : α × σ → Except ε γ} {s : σ} {c : γ}
    (hp : Ends I P Q p) (hs : I s) (hk : ∀ a t, Q a → I t → k (a, t) = .ok c → S c)
    (h : p.run s >>= k = .ok c) : S c := by
  have hend := hp s hs
  rcases hrun : p.run s with e | ⟨a, t⟩ <;> rw [hrun] at h hend
  · cases h
  · exact hk a t hend.1 hend.2 h

end Ends

/-! ### Reading nodes -/

namespace Compose

/-- A computation that keeps the fault after the tokens, and ends with it or with a malformed text
if it fails. -/
def Tame (fault : Fault) {α : Type} (p : Compose α) : Prop :=
  Ends (fun s => s.fault = fault) (fun e => e = .malformed ∨ e = fault) (fun _ => True) p

variable {fault : Fault} {α β : Type} {p : Compose α} {f : α → Compose β}

theorem malformed_tame : Tame fault (malformed : Compose α) := .throw (.inl rfl)

theorem Tame.pure (a : α) : Tame fault (pure a : Compose α) := Ends.pure trivial

theorem Tame.bind (hp : Tame fault p) (hf : ∀ a, Tame fault (f a)) : Tame fault (p >>= f) :=
  Ends.bind hp fun a _ => hf a

theorem Tame.ite {b : Prop} [Decidable b] {q : Compose α} (hp : Tame fault p)
    (hq : Tame fault q) : Tame fault (if b then p else q) :=
  Ends.ite hp hq

theorem Tame.get : Tame fault (get : Compose Composer) := Ends.get.mono fun _ _ => trivial

theorem Tame.modify {g : Composer → Composer} (hg : ∀ s, (g s).fault = s.fault) :
    Tame fault (modify g : Compose PUnit) :=
  Ends.modify fun s hs => (hg s).trans hs

theorem peek_tame : Tame fault peek := by
  refine Ends.bind Ends.get fun s hs => ?_
  split
  · exact .pure trivial
  · exact .throw (.inr hs)

theorem take_tame : Tame fault take :=
  peek_tame.bind fun t => .bind (.modify fun _ => rfl) fun _ => .pure t

theorem next_tame (ts : List Token) : Tame fault (next ts) :=
  peek_tame.bind fun _ => .pure _

theorem accept_tame (t : Token) : Tame fault (accept t) :=
  peek_tame.bind fun _ => .ite (take_tame.bind fun _ => .pure _) (.pure _)

theorem newNode_tame (n : Node) : Tame fault (newNode n) :=
  Ends.bind Ends.get fun _ hs => Ends.bind (Ends.set hs) fun _ _ => Ends.pure trivial

theorem declare_tame (anchor : Option String) (id : Nat) : Tame fault (declare anchor id) := by
  cases anchor with
  | none => exact .pure ()
  | some name => exact .modify fun _ => rfl

theorem aliased_tame (name : String) : Tame fault (aliased name) := by
  refine Ends.bind Ends.get fun s hs => ?_
  split
  · exact Ends.bind (Ends.set hs) fun _ _ => Ends.pure trivial
  · exact malformed_tame

theorem properties_tame : Tame fault properties := by
  refine peek_tame.bind fun t => ?_
  split
  · refine take_tame.bind fun _ => peek_tame.bind fun u => ?_
    split
    · exact take_tame.bind fun _ => .pure _
    · exact .pure _
  · refine take_tame.bind fun _ => peek_tame.bind fun u => ?_
    split
    · exact take_tame.bind fun _ => .pure _
    · exact .pure _
  · exact .pure _

theorem tagName_tame (handle : Option String) (suffix : String) :
    Tame fault (tagName handle suffix) := by
  cases handle with
  | none => exact .pure suffix
  | some h =>
    refine Tame.get.bind fun s => ?_
    split
    · exact .pure _
    · exact malformed_tame

theorem checkAnchor_tame (anchor : Option String) : Tame fault (checkAnchor anchor) := by
  cases anchor with
  | none => exact .pure ()
  | some name => exact Tame.get.bind fun s => .ite malformed_tame (.pure ())

theorem inside_tame (anchor : Option String) (start : Node) (hp : Tame fault p)
    (finish : α → Node) : Tame fault (inside anchor start p finish) :=
  (checkAnchor_tame anchor).bind fun _ => (newNode_tame start).bind fun id =>
    (declare_tame anchor id).bind fun _ => .bind (.modify fun _ => rfl) fun _ =>
    hp.bind fun _ => .bind (.modify fun _ => rfl) fun _ => .pure id

/-- The readers of nodes are tame with some fuel. -/
structure TameReaders (fault : Fault) (fuel : Nat) : Prop where
  node : ∀ block dashes, Tame fault (node block dashes fuel)
  nodeUnless : ∀ ends block dashes, Tame fault (nodeUnless ends block dashes fuel)
  blockItems : Tame fault (blockItems fuel)
  dashEntries : Tame fault (dashEntries fuel)
  blockEntries : Tame fault (blockEntries fuel)
  blockValue : ∀ ends, Tame fault (blockValue ends fuel)
  flowItems : ∀ first, Tame fault (flowItems first fuel)
  flowPair : Tame fault (flowPair fuel)
  flowEntries : ∀ first, Tame fault (flowEntries first fuel)

/-- A node without content is read by its name alone. -/
theorem leaf_tame (anchor : Option String) (n : Node) :
    Tame fault (do checkAnchor anchor; let id ← newNode n; declare anchor id; return id) :=
  (checkAnchor_tame anchor).bind fun _ => (newNode_tame n).bind fun id =>
    (declare_tame anchor id).bind fun _ => .pure id

section Readers

variable {fuel : Nat} (ih : TameReaders fault fuel)
include ih

theorem node_tame (block dashes : Bool) : Tame fault (node block dashes (fuel + 1)) := by
  rw [node]
  refine peek_tame.bind fun t => ?_
  split
  · exact take_tame.bind fun _ => aliased_tame _
  · refine properties_tame.bind fun (anchor, tag) => ?_
    dsimp -zeta only
    extract_lets content
    have hcontent : ∀ written, Tame fault (content written) := by
      intro written
      refine peek_tame.bind fun t => .ite (inside_tame _ _ ih.dashEntries _) ?_
      split
      · exact take_tame.bind fun _ => leaf_tame _ _
      · exact take_tame.bind fun _ => inside_tame _ _ (ih.flowItems true) _
      · exact take_tame.bind fun _ => inside_tame _ _ (ih.flowEntries true) _
      · exact .ite malformed_tame (take_tame.bind fun _ => inside_tame _ _ ih.blockItems _)
      · exact .ite malformed_tame (take_tame.bind fun _ => inside_tame _ _ ih.blockEntries _)
      · exact .ite malformed_tame (leaf_tame _ _)
    split
    · exact ((tagName_tame _ _).bind fun _ => .pure _).bind hcontent
    · exact hcontent none

theorem nodeUnless_tame (ends : List Token) (block dashes : Bool) :
    Tame fault (nodeUnless ends block dashes (fuel + 1)) := by
  rw [nodeUnless]
  exact (next_tame ends).bind fun _ => .ite (newNode_tame _) (ih.node block dashes)

theorem blockItems_tame : Tame fault (blockItems (fuel + 1)) := by
  rw [blockItems]
  exact (accept_tame _).bind fun _ => .ite
    ((ih.nodeUnless _ _ _).bind fun _ => ih.blockItems.bind fun _ => .pure _)
    ((accept_tame _).bind fun _ => .ite (.pure _) malformed_tame)

theorem dashEntries_tame : Tame fault (dashEntries (fuel + 1)) := by
  rw [dashEntries]
  exact (accept_tame _).bind fun _ => .ite
    ((ih.nodeUnless _ _ _).bind fun _ => ih.dashEntries.bind fun _ => .pure _) (.pure _)

theorem blockEntries_tame : Tame fault (blockEntries (fuel + 1)) := by
  rw [blockEntries]
  exact (accept_tame _).bind fun _ => .ite
    ((ih.nodeUnless _ _ _).bind fun _ => (ih.blockValue _).bind fun _ =>
      ih.blockEntries.bind fun _ => .pure _)
    ((accept_tame _).bind fun _ => .ite (.pure _) malformed_tame)

theorem blockValue_tame (ends : List Token) : Tame fault (blockValue ends (fuel + 1)) := by
  rw [blockValue]
  exact (accept_tame _).bind fun _ => .ite (ih.nodeUnless _ _ _) (newNode_tame _)

theorem flowPair_tame : Tame fault (flowPair (fuel + 1)) := by
  rw [flowPair]
  exact take_tame.bind fun _ => (ih.nodeUnless _ _ _).bind fun _ => (accept_tame _).bind fun _ =>
    .ite ((ih.nodeUnless _ _ _).bind fun _ => .pure _) ((newNode_tame _).bind fun _ => .pure _)

theorem flowItems_tame (first : Bool) : Tame fault (flowItems first (fuel + 1)) := by
  rw [flowItems]
  refine (accept_tame _).bind fun _ => .ite (.pure _) ?_
  extract_lets item
  have hitem : ∀ u, Tame fault (item u) := fun _ => (next_tame _).bind fun _ => .ite
    ((inside_tame _ _ ih.flowPair _).bind fun _ => (ih.flowItems false).bind fun _ => .pure _)
    ((accept_tame _).bind fun _ => .ite (.pure _)
      ((ih.node _ _).bind fun _ => (ih.flowItems false).bind fun _ => .pure _))
  exact .ite ((accept_tame _).bind fun _ => .ite (malformed_tame.bind hitem) (hitem ())) (hitem ())

theorem flowEntries_tame (first : Bool) : Tame fault (flowEntries first (fuel + 1)) := by
  rw [flowEntries]
  refine (accept_tame _).bind fun _ => .ite (.pure _) ?_
  extract_lets entry
  have hnext : ∀ e : Nat × Nat, Tame fault (return e :: (← flowEntries false fuel)) := fun _ =>
    (ih.flowEntries false).bind fun _ => .pure _
  have hentry : ∀ u, Tame fault (entry u) := fun _ => (accept_tame _).bind fun _ => .ite
    ((ih.nodeUnless _ _ _).bind fun _ => (accept_tame _).bind fun _ => .ite
      ((ih.nodeUnless _ _ _).bind fun _ => hnext _) ((newNode_tame _).bind fun _ => hnext _))
    ((accept_tame _).bind fun _ => .ite (.pure _)
      ((ih.node _ _).bind fun _ => (newNode_tame _).bind fun _ => hnext _))
  exact .ite
    ((accept_tame _).bind fun _ => .ite (malformed_tame.bind hentry) (hentry ())) (hentry ())

end Readers

/-- The readers are tame with any fuel, by induction on it. -/
theorem tameReaders (fault : Fault) (fuel : Nat) : TameReaders fault fuel := by
  induction fuel with
  | zero =>
    constructor <;> intros <;>
      simp only [node, nodeUnless, blockItems, dashEntries, blockEntries, blockValue, flowItems,
        flowPair, flowEntries, malformed_tame]
  | succ fuel ih =>
    exact ⟨node_tame ih, nodeUnless_tame ih, blockItems_tame ih, dashEntries_tame ih,
      blockEntries_tame ih, blockValue_tame ih, flowItems_tame ih, flowPair_tame ih,
      flowEntries_tame ih⟩

/-! ### Documents -/

theorem directives_tame (fuel : Nat) (versioned : Bool) (handles : List (String × String)) :
    Tame fault (directives fuel versioned handles) := by
  induction fuel generalizing versioned handles with
  | zero => exact malformed_tame
  | succ fuel ih =>
    rw [directives]
    refine peek_tame.bind fun t => ?_
    split
    · refine take_tame.bind fun _ => ?_
      split
      · exact .ite malformed_tame (ih _ _)
      · exact .ite malformed_tame (ih _ _)
      · exact ih _ _
    · exact .pure _

theorem skipEnds_tame (fuel : Nat) : Tame fault (skipEnds fuel) := by
  induction fuel with
  | zero => exact malformed_tame
  | succ fuel ih =>
    rw [skipEnds]
    exact (accept_tame _).bind fun _ => .ite ih (.pure _)

theorem documentStart_tame (fuel : Nat) : Tame fault (documentStart fuel) :=
  (skipEnds_tame fuel).bind fun _ => (next_tame _).bind fun _ => .ite (.pure _)
    ((directives_tame fuel _ _).bind fun _ => (accept_tame _).bind fun _ => .ite
      (.bind (.modify fun _ => rfl) fun _ => .pure _) malformed_tame)

theorem nextDirective_tame : Tame fault nextDirective := by
  refine peek_tame.bind fun t => ?_
  split
  · exact .pure _
  · exact .pure _

theorem document_tame (fuel : Nat) : Tame fault (document fuel) := by
  refine nextDirective_tame.bind fun _ => (next_tame _).bind fun _ =>
    .bind (.pure _) fun marked => ?_
  extract_lets -underBinder content
  have hcontent : ∀ found, Tame fault (content found) := by
    refine fun found => .ite (.pure _)
      (nextDirective_tame.bind fun _ => (next_tame _).bind fun _ => ?_)
    extract_lets finish
    have hfinish : ∀ id, Tame fault (finish id) := fun id => (accept_tame _).bind fun _ =>
      (documentStart_tame fuel).bind fun _ => .ite malformed_tame (.pure _)
    exact .ite ((newNode_tame _).bind hfinish)
      (((tameReaders fault fuel).node true false).bind hfinish)
  exact .ite ((documentStart_tame fuel).bind hcontent)
    (.bind (.modify fun _ => rfl) fun _ => .bind (.pure _) hcontent)

end Compose

/-- A text without a graph is malformed, or the fault after its tokens says why. -/
theorem ofText_faults {cs : List Char} {e : Fault} (h : Graph.ofText cs = .error e) :
    e = .malformed ∨ e = (scan cs).fault := by
  exact (Compose.document_tame _).fault rfl (fun _ hr => by cases hr) h

/-! ### Filling nodes -/

namespace Build

/-- A text that a scalar of a document writes; a node that is missing counts as empty. -/
def WritesText (ns : Array Node) (text : String) : Prop :=
  text = "" ∨ ∃ tag, Node.scalar tag text ∈ ns

/-- A fault of a scalar: some text of a document does not fit the type of one of its nodes. -/
def Misfit (ns : Array Node) (e : Fault) : Prop :=
  ∃ n ∈ ns, ∃ text, WritesText ns text ∧ typed (tagOf n) text = .error e

/-- A node that says nothing beyond the nodes of a document: if its type makes demands, a node there
has that type, and its text is one of theirs. -/
structure Within (ns : Array Node) (n : Node) : Prop where
  demands : ∀ text e, typed (tagOf n) text = .error e → ∃ m ∈ ns, tagOf m = tagOf n
  text : ∀ tag text, n = .scalar tag text → WritesText ns text

/-- A content without a key that comes again. -/
def Distinct : Content → Prop
  | .map entries => DistinctKeys (entries.map Prod.fst)
  | _ => True

/-- A node of a document is a scalar of a type of texts. -/
structure IsTyped (ns : Array Node) (id : Nat) (tag : Tag) (text : String) : Prop where
  node : ns[id]? = some (.scalar tag text)
  tag : typed tag text ≠ .ok none

/-- A content is the value of a text under a tag. -/
def IsValue (tag : Tag) (text : String) (c : Content) : Prop :=
  ∃ v, c = .scalar v ∧ typed tag text = .ok (some v)

/-- What filling keeps: there are no nodes beyond those of a document, no mapping was given a key
twice, and a scalar of a type of texts is in its place and was given no content but its value. -/
structure Sound (ns : Array Node) (s : Builder) : Prop where
  nodes : ∀ n ∈ s.nodes, Within ns n
  contents : ∀ c, some c ∈ s.contents → Distinct c
  inPlace : ∀ id tag text, IsTyped ns id tag text → s.nodes[id]? = some (.scalar tag text)
  values : ∀ id tag text c, IsTyped ns id tag text → s.contents[id]? = some (some c) →
    IsValue tag text c

/-- A node that is found in a place. -/
structure Found (ns : Array Node) (id : Nat) (n : Node) : Prop extends Within ns n where
  same : ∀ tag text, IsTyped ns id tag text → n = .scalar tag text

/-- A computation that keeps what filling keeps, and ends in a malformed text or a misfit if it
fails. -/
def Fits (ns : Array Node) {α : Type} (Q : α → Prop) (p : Build α) : Prop :=
  Ends (Sound ns) (fun e => e = .malformed ∨ Misfit ns e) Q p

variable {ns : Array Node}

theorem within_of_mem {n : Node} (h : n ∈ ns) : Within ns n :=
  ⟨fun _ _ _ => ⟨n, h, rfl⟩, fun tag _ hn => .inr ⟨tag, hn ▸ h⟩⟩

theorem nodeAt_fits (id : Nat) : Fits ns (Found ns id) (nodeAt id) := by
  refine Ends.bind Ends.get fun s hs => Ends.pure ?_
  have hsame : ∀ tag text, IsTyped ns id tag text →
      s.nodes[id]?.getD (.scalar .null "") = .scalar tag text := by
    intro tag text h
    rw [hs.inPlace id tag text h, Option.getD_some]
  rcases hid : s.nodes[id]? with _ | n <;> rw [hid] at hsame
  · exact ⟨⟨nofun, fun tag text h => .inl (by cases h; rfl)⟩, hsame⟩
  · exact ⟨hs.nodes n (Array.mem_of_getElem? hid), hsame⟩

/-- Tags that are no types of texts. -/
theorem Found.not_isTyped {id : Nat} {n : Node} (h : Found ns id n)
    (htag : ∀ text, typed (tagOf n) text = .ok none) (tag : Tag) (text : String) :
    ¬ IsTyped ns id tag text := by
  intro htyped
  rw [h.same tag text htyped] at htag
  exact htyped.tag (htag text)

theorem Found.not_isTyped_of_mapping {id : Nat} {t : Tag} {entries : List (Nat × Nat)}
    (h : Found ns id (.mapping t entries)) (tag : Tag) (text : String) :
    ¬ IsTyped ns id tag text :=
  fun htyped => nomatch h.same tag text htyped

theorem Found.not_isTyped_of_sequence {id : Nat} {t : Tag} {items : List Nat}
    (h : Found ns id (.sequence t items)) (tag : Tag) (text : String) :
    ¬ IsTyped ns id tag text :=
  fun htyped => nomatch h.same tag text htyped

/-- An entry of a mapping that stands for its value is read as a text from then on. -/
theorem Within.retag {tag : Tag} {text : String} (h : Within ns (.scalar tag text)) :
    Within ns (.scalar .text text) :=
  ⟨nofun, fun _ _ hn => by cases hn; exact h.text tag text rfl⟩

theorem Within.setEntries {tag : Tag} {old : List (Nat × Nat)} (h : Within ns (.mapping tag old))
    (entries : List (Nat × Nat)) : Within ns (.mapping tag entries) :=
  ⟨h.demands, nofun⟩

theorem malformed_fits {α : Type} {Q : α → Prop} : Fits ns Q (throw .malformed : Build α) :=
  .throw (.inl rfl)

theorem malformed_then {α β : Type} {Q : β → Prop} {f : α → Build β} :
    Fits ns Q (throw .malformed >>= f) :=
  fun _ _ => .inl rfl

theorem loop_fits {γ β : Type} {l : List γ} {g : γ → β → Build (ForInStep β)} (b : β)
    (hg : ∀ c b, Fits ns (fun _ => True) (g c b)) : Fits ns (fun _ => True) (forIn l b g) :=
  .forIn trivial fun c b _ => hg c b

theorem setNode_fits {id : Nat} (hid : ∀ tag text, ¬ IsTyped ns id tag text) {n : Node}
    (hn : Within ns n) : Fits ns (fun _ => True) (setNode id n) := by
  refine .modify fun s hs => ⟨fun m hm => ?_, hs.contents, fun i tag text hi => ?_, hs.values⟩
  · dsimp only at hm
    rw [Array.set!_eq_setIfInBounds] at hm
    rcases Array.mem_or_eq_of_mem_setIfInBounds hm with hm | rfl
    · exact hs.nodes m hm
    · exact hn
  · have hne : id ≠ i := by
      rintro rfl
      exact hid tag text hi
    dsimp only
    rw [Array.set!_eq_setIfInBounds, Array.getElem?_setIfInBounds_ne hne]
    exact hs.inPlace i tag text hi

theorem setContent_fits {id : Nat} {c : Content} (hc : Distinct c)
    (hvalue : ∀ tag text, IsTyped ns id tag text → IsValue tag text c) :
    Fits ns (fun _ => True) (setContent id c) := by
  refine .modify fun s hs => ⟨hs.nodes, fun d hd => ?_, hs.inPlace, fun i tag text d hi hd => ?_⟩
  · dsimp only at hd
    rw [Array.set!_eq_setIfInBounds] at hd
    rcases Array.mem_or_eq_of_mem_setIfInBounds hd with hd | hd
    · exact hs.contents d hd
    · exact Option.some.inj hd ▸ hc
  · dsimp only at hd
    rw [Array.set!_eq_setIfInBounds, Array.getElem?_setIfInBounds] at hd
    split_ifs at hd with heq hlt
    · subst heq
      obtain rfl : c = d := Option.some.inj (Option.some.inj hd)
      exact hvalue tag text hi
    · exact hs.values i tag text d hi hd

/-- A text that is found for a node. -/
structure TextOf (ns : Array Node) (id : Nat) (text : String) : Prop where
  writes : WritesText ns text
  same : ∀ tag own, IsTyped ns id tag own → text = own

theorem scalarText_fits (fuel id : Nat) : Fits ns (TextOf ns id) (scalarText fuel id) := by
  induction fuel generalizing id with
  | zero => exact malformed_fits
  | succ fuel ih =>
    rw [scalarText]
    refine (nodeAt_fits id).bind fun n hn => ?_
    split
    · rename_i tag text
      refine .pure ⟨hn.text tag text rfl, fun tag own h => ?_⟩
      cases hn.same tag own h
      rfl
    · exact malformed_fits
    · -- The loop keeps the text of the first entry that stands for the value.
      refine Ends.bind (Q := fun r => ∀ text, r.1 = some text → WritesText ns text)
        (.forIn nofun fun (key, value) _ _ => (nodeAt_fits key).bind fun _ _ => ?_) fun r hr => ?_
      · split
        · refine (ih value).bind fun text htext => .pure ?_
          intro text' htext'
          cases htext'
          exact htext.writes
        · exact .pure nofun
      · dsimp only
        split
        · rename_i text htext
          exact .pure ⟨hr text htext, fun tag own h => absurd h (hn.not_isTyped_of_mapping tag own)⟩
        · exact malformed_fits

theorem construct_fits (id : Nat) : Fits ns (fun _ => True) (construct id) := by
  refine Ends.bind Ends.get fun s hs => ?_
  split
  · exact .pure trivial
  · refine (nodeAt_fits id).bind fun n hn => ?_
    have hwait : (∀ text, typed (tagOf n) text = .ok none) → Fits ns (fun _ => True) (do
        setContent id .pending
        modify fun s => { s with waiting := s.waiting ++ [id] }
        return .pending : Build Content) := fun htag =>
      (setContent_fits (c := .pending) trivial fun tag text h =>
        absurd h (hn.not_isTyped htag tag text)).bind fun _ _ =>
        .bind (.modify fun _ hs => ⟨hs.nodes, hs.contents, hs.inPlace, hs.values⟩) fun _ _ =>
          .pure trivial
    dsimp only
    split
    case h_9 =>
      refine (scalarText_fits _ id).bind fun text htext =>
        .bind (.lift fun e he => ?_) fun v hv => ?_
      · obtain ⟨m, hm, htag⟩ := hn.demands text e he
        exact .inr ⟨m, hm, text, htext.writes, htag ▸ he⟩
      · split
        · rename_i value
          refine (setContent_fits (c := .scalar value) trivial fun tag own h => ?_).bind
            fun _ _ => .pure trivial
          rw [hn.same tag own h, htext.same tag own h] at hv
          exact ⟨value, rfl, hv⟩
        · exact malformed_fits
    case h_1 | h_2 | h_3 | h_4 | h_5 =>
      rename_i htag
      exact hwait fun text => by rw [htag]; rfl
    all_goals exact malformed_fits

theorem entriesAt_fits (id : Nat) : Fits ns (fun _ => True) (entriesAt id) := by
  refine (nodeAt_fits id).bind fun n _ => ?_
  split
  · exact .pure trivial
  · exact malformed_fits

theorem isMapping_fits (id : Nat) : Fits ns (fun _ => True) (isMapping id) := by
  refine (nodeAt_fits id).bind fun n _ => ?_
  split
  · exact .pure trivial
  · exact .pure trivial

theorem setEntries_fits (id : Nat) (entries : List (Nat × Nat)) :
    Fits ns (fun _ => True) (setEntries id entries) := by
  refine (nodeAt_fits id).bind fun n hn => ?_
  split
  · exact setNode_fits hn.not_isTyped_of_mapping (hn.setEntries entries)
  · exact .pure trivial

theorem flatten_fits (fuel id index : Nat) (merged : List (Nat × Nat)) :
    Fits ns (fun _ => True) (flatten fuel id index merged) := by
  induction fuel generalizing id index merged with
  | zero => exact malformed_fits
  | succ fuel ih =>
    rw [flatten]
    refine (entriesAt_fits id).bind fun entries _ => ?_
    split
    · exact .ite (setEntries_fits id _) (.pure trivial)
    · rename_i key value _
      refine (nodeAt_fits key).bind fun n hn => ?_
      split
      · refine (setEntries_fits id _).bind fun _ _ => (nodeAt_fits value).bind fun _ _ => ?_
        split
        · exact (ih value 0 []).bind fun _ _ => (entriesAt_fits value).bind fun _ _ => ih _ _ _
        · refine (loop_fits _ fun item rows => (isMapping_fits item).bind fun _ _ => ?_).bind
            fun _ _ => ih _ _ _
          extract_lets row
          have hrow : ∀ u, Fits ns (fun _ => True) (row u) := fun _ =>
            (ih item 0 []).bind fun _ _ => (entriesAt_fits item).bind fun _ _ => .pure trivial
          exact .ite malformed_then (hrow ())
        · exact malformed_fits
      · exact (setNode_fits (hn.not_isTyped fun _ => rfl) hn.retag).bind fun _ _ => ih _ _ _
      · exact ih _ _ _

theorem mem_keys_putEntry {key : Scalar} {value : Nat} {entries : List (Scalar × Nat)} {k : Scalar}
    (h : k ∈ (putEntry key value entries).map Prod.fst) : k ∈ entries.map Prod.fst ∨ k = key := by
  induction entries with
  | nil => exact .inr (List.mem_singleton.mp h)
  | cons e rest ih =>
    rw [putEntry] at h
    split_ifs at h
    · exact .inl h
    · rcases List.mem_cons.mp h with rfl | h
      · exact .inl List.mem_cons_self
      · exact (ih h).imp_left (List.mem_cons_of_mem _)

/-- An entry is put in the place of the one under the same key, if there is one. -/
theorem distinctKeys_putEntry {key : Scalar} {value : Nat} {entries : List (Scalar × Nat)}
    (h : DistinctKeys (entries.map Prod.fst)) :
    DistinctKeys ((putEntry key value entries).map Prod.fst) := by
  induction entries with
  | nil => exact List.pairwise_singleton _ _
  | cons e rest ih =>
    obtain ⟨hhead, hrest⟩ := List.pairwise_cons.mp h
    rw [putEntry]
    split_ifs with hsame
    · exact h
    · refine List.pairwise_cons.mpr ⟨fun k hk => ?_, ih hrest⟩
      rcases mem_keys_putEntry hk with hk | rfl
      · exact hhead k hk
      · exact Bool.not_eq_true _ ▸ hsame

theorem mapping_fits (fuel id : Nat) :
    Fits ns (fun entries => DistinctKeys (entries.map Prod.fst)) (mapping fuel id) := by
  refine (isMapping_fits id).bind fun _ _ => ?_
  extract_lets -underBinder content
  have hcontent : ∀ u, Fits ns (fun entries => DistinctKeys (entries.map Prod.fst))
      (content u) := by
    -- The loop puts one entry after the other.
    refine fun _ => (flatten_fits fuel id 0 []).bind fun _ _ => (entriesAt_fits id).bind
      fun entries _ => Ends.bind (Q := fun out => DistinctKeys (out.map Prod.fst))
      (.forIn distinctKeys_nil fun (key, value) out hout => (construct_fits key).bind
      fun _ _ => ?_) fun _ hout => .pure hout
    split
    · exact (construct_fits value).bind fun _ _ => .pure (distinctKeys_putEntry hout)
    · exact malformed_then
  exact .ite malformed_then (hcontent ())

theorem sequence_fits (id : Nat) : Fits ns (fun _ => True) (sequence id) := by
  refine (nodeAt_fits id).bind fun n _ => ?_
  split
  · exact (loop_fits _ fun item _ => (construct_fits item).bind fun _ _ => .pure trivial).bind
      fun _ _ => .pure trivial
  · exact malformed_fits

theorem pairRow_fits (id : Nat) :
    Fits ns (fun _ => ∀ tag text, ¬ IsTyped ns id tag text) (pairRow id) := by
  refine (nodeAt_fits id).bind fun n hn => ?_
  split
  · refine (loop_fits _ fun item out => (nodeAt_fits item).bind fun _ _ => ?_).bind
      fun _ _ => .pure hn.not_isTyped_of_sequence
    split
    · exact (construct_fits _).bind fun _ _ => (construct_fits _).bind fun _ _ => .pure trivial
    · exact malformed_then
  · exact malformed_fits

theorem fill_fits (fuel id : Nat) : Fits ns (fun _ => True) (fill fuel id) := by
  refine (nodeAt_fits id).bind fun n hn => ?_
  have hcontent : ∀ c, Distinct c → (∀ tag text, ¬ IsTyped ns id tag text) →
      Fits ns (fun _ => True) (setContent id c) := fun c hc hid =>
    setContent_fits hc fun tag text h => absurd h (hid tag text)
  split
  · rename_i htag
    exact (sequence_fits id).bind fun _ _ =>
      hcontent _ trivial (hn.not_isTyped fun _ => by rw [htag]; rfl)
  · rename_i htag
    exact (mapping_fits fuel id).bind fun _ h =>
      hcontent _ h (hn.not_isTyped fun _ => by rw [htag]; rfl)
  · rename_i htag
    exact (mapping_fits fuel id).bind fun _ _ =>
      hcontent _ trivial (hn.not_isTyped fun _ => by rw [htag]; rfl)
  · exact (pairRow_fits id).bind fun _ h => hcontent _ trivial h

theorem fillAll_fits (fuel n : Nat) : Fits ns (fun _ => True) (fillAll fuel n) := by
  induction n with
  | zero => exact .pure trivial
  | succ n ih =>
    rw [fillAll]
    refine Ends.bind Ends.get fun s _ => ?_
    split
    · exact .pure trivial
    · exact .bind (.modify fun _ hs => ⟨hs.nodes, hs.contents, hs.inPlace, hs.values⟩) fun _ _ =>
        (fill_fits fuel _).bind fun _ _ => ih

end Build

/-- Nothing is filled yet. -/
theorem Build.sound_start (ns : Array Node) :
    Build.Sound ns ⟨ns, Array.replicate ns.size none, []⟩ := by
  refine ⟨fun n hn => Build.within_of_mem hn, fun c hc => ?_, fun _ _ _ h => h.node,
    fun id tag text c _ hc => ?_⟩
  · cases (Array.mem_replicate.mp hc).2
  · rw [Array.getElem?_replicate] at hc
    split_ifs at hc
    cases hc

/-- A graph without a value is malformed, or a text in it does not fit a type in it. -/
theorem Graph.value_faults {g : Graph} {e : Fault} (h : g.value = .error e) :
    e = .malformed ∨ Build.Misfit g.nodes e := by
  exact ((Build.construct_fits g.root).bind fun _ _ => Build.fillAll_fits _ _).fault
    (Build.sound_start g.nodes) (fun _ hr => by cases hr) h

/-- **Texts without a value.** -/
theorem load_faults {text : String} {e : Fault} (h : load text = .error e) :
    TokenFault e ∨
      ∃ g, Graph.ofText text.toList = .ok (some g) ∧ Build.Misfit g.nodes e := by
  rw [load] at h
  rcases hg : Graph.ofText text.toList with e' | g
  · rw [hg] at h
    cases h
    rcases ofText_faults hg with rfl | rfl
    · exact .inl (.inl rfl)
    · exact .inl (scan_fault text.toList)
  · rw [hg] at h
    cases g with
    | none => cases h
    | some g =>
      rcases g.value_faults h with rfl | he
      · exact .inl (.inl rfl)
      · exact .inr ⟨g, rfl, he⟩

end ItemCatalog.Yaml
