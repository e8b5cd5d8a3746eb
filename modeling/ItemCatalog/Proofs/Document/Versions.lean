import ItemCatalog.Proofs.Document.Grammar
import ItemCatalog.Proofs.Yaml.Contents
import ItemCatalog.Proofs.Yaml.Numerals

/-! # Versions: what becomes of a version that is written as a number

A version that stands as a plain numeral in a document gets the type of a number first, and becomes
a text again when the item is built. `writtenVersion?` finds the text in the document from which an
item has its version, `WrittenAs` says of an item that it is a numeral. The value of this numeral is
all that the item is built from, so its version is the text of the value (`WrittenAs.version`), and
versions are distinct exactly if the values are (`written_versions`). -/

namespace ItemCatalog.Document

open Yaml Number

/-! ### Written versions -/

/-- The text of a scalar that has the type of this text where it stands plain. -/
def plainText? : Node → Option String
  | .scalar tag text => if tag = .ofPlain text then some text else none
  | _ => none

/-- The node of the item in the place `k` of a section: the element of its list there, or the
section itself if it has none. -/
def entryNode? (contents : Array (Option Content)) (sec k : Nat) : Option Nat :=
  match under? contents "items" sec with
  | some listed => (elements? contents listed).bind (·[k]?)
  | none => if k = 0 then some sec else none

/-- The node from which an item of a document has its version: that of its own entry, or else that
of the section. -/
def versionNode? (contents : Array (Option Content)) (root k : Nat) : Option Nat := do
  let sec ← under? contents sectionKey root
  let entry ← entryNode? contents sec k
  (under? contents "version" entry).or (under? contents "version" sec)

/-- **The text** that stands in a document as the version of the item in the place `k`, if it stands
there as a plain scalar. -/
def writtenVersion? (text : String) (k : Nat) : Option String := do
  let g ← (Graph.ofText text.toList).toOption.join
  let contents ← g.filled.toOption
  let id ← versionNode? contents g.root k
  plainText? (← g.nodes[id]?)

example : writtenVersion? "catalog: {version: 010, items: [{id: a}]}" 0 = some "010" := by
  decide +kernel

/-- A document gives an item whose version is written in it as a numeral. -/
def WrittenAs (text : String) (source : Option String) (w : Numeral) (i : Item) : Prop :=
  ∃ items k, structuredItems text source = .ok items ∧ items[k]? = some i ∧
    writtenVersion? text k = some w.text

/-! ### From the document to the item -/

section Values
variable {contents : Array (Option Content)} {knots : List Nat} {root k id : Nat}
  {source : Option String} {v : Value} {items : List Item} {i : Item}

/-- What spells a name is no container and not null. -/
theorem open_of_spellsName {v : Value} {s : String} (h : SpellsName v s) :
    v.open? = v ∧ v ≠ .null := by
  cases h with
  | spelled h => cases h <;> exact ⟨rfl, nofun⟩
  | int h => exact ⟨rfl, nofun⟩
  | float x => exact ⟨rfl, nofun⟩

/-- A value of a numeral is spelled in one way. -/
theorem eq_display_of_spellsName {s : Scalar} (hs : OfNumeral s) {t : String}
    (h : SpellsName (.scalar s) t) : t = s.display := by
  cases hs with
  | int n =>
    cases h with
    | spelled h => cases h
    | int h => rfl
  | float hx =>
    cases h with
    | spelled h => cases h
    | float x => rfl
  | text hdigits hzero => exact spellsName_text_iff.mp h

/-- The node of an item is where the item comes from. -/
theorem stands_entry {whole : Value} {sec : Entries} {secId : Nat}
    (hv : Stands contents knots whole secId) (hsec : whole.asMap? = some sec)
    (hgives : SectionGives source sec items) (hi : items[k]? = some i)
    (hid : entryNode? contents secId k = some id) :
    ∃ entry fields, Stands contents knots entry id ∧ entry.asMap? = some fields ∧
      Describes (fields.extend (sectionDefaults sec)) i := by
  unfold entryNode? at hid
  cases hgives with
  | none h => cases hi
  | list h hlist hitems =>
    obtain ⟨listedId, hlistedId, hlisted⟩ := hv.get?_some hsec h
    rw [hlistedId] at hid
    obtain ⟨ids, hids, hid⟩ := Option.bind_eq_some_iff.mp hid
    obtain ⟨hk, rfl⟩ := List.getElem?_eq_some_iff.mp hi
    have hk' := hitems.length_eq ▸ hk
    obtain ⟨fields, hfields, hdescribes, -⟩ := hitems.get hk' hk
    exact ⟨_, fields, hlisted.getElem? hlist hids hid (List.getElem?_eq_getElem hk'), hfields,
      hdescribes⟩
  | @single i' h _ hdescribes _ =>
    rw [hv.get?_none hsec h] at hid
    simp only at hid
    split_ifs at hid with hk
    subst hk
    obtain rfl := Option.some.inj hid
    obtain rfl := Option.some.inj hi
    exact ⟨whole, sec, hv, hsec,
      (describes_congr (fun key _ => get?_extend_own sec key) i').mpr hdescribes⟩

/-- **The node of a version** is where the version of the item comes from. -/
theorem stands_version (hv : Stands contents knots v root) (hgives : DocumentGives source v items)
    (hi : items[k]? = some i) (hid : versionNode? contents root k = some id) :
    ∃ u, Stands contents knots u id ∧ SpellsName u i.version := by
  obtain ⟨sec, ⟨top, whole, htop, hwhole, hsec⟩, hgives⟩ := hgives
  obtain ⟨secId, hsecId, hid⟩ := Option.bind_eq_some_iff.mp hid
  obtain ⟨entryId, hentryId, hid⟩ := Option.bind_eq_some_iff.mp hid
  obtain ⟨secId', hsecId', hstands⟩ := hv.get?_some htop hwhole
  obtain rfl := Option.some.inj (hsecId.symm.trans hsecId')
  obtain ⟨entry, fields, hentry, hfields, hdescribes⟩ :=
    stands_entry hstands hsec hgives hi hentryId
  -- The version of the entry wins over that of the section, in the value as in the graph.
  have hversion := hdescribes.version
  rw [Entries.get?_extend, get?_sectionDefaults, if_pos (by decide)] at hversion
  rcases hown : Entries.get? fields "version" with _ | u
  · rcases hdefault : Entries.get? sec "version" with _ | u
    · rw [hentry.get?_none hfields hown, hstands.get?_none hsec hdefault] at hid
      cases hid
    · obtain ⟨j, hj, hu⟩ := hstands.get?_some hsec hdefault
      rw [hentry.get?_none hfields hown, hj] at hid
      obtain rfl := Option.some.inj hid
      rw [hown, hdefault] at hversion
      exact ⟨u, hu, hversion⟩
  · obtain ⟨j, hj, hu⟩ := hentry.get?_some hfields hown
    rw [hj] at hid
    obtain rfl := Option.some.inj hid
    rw [hown] at hversion
    exact ⟨u, hu, hversion⟩

end Values

theorem eq_ok_of_toOption {ε α : Type} {r : Except ε α} {a : α} (h : r.toOption = some a) :
    r = .ok a := by
  cases r with
  | error e => cases h
  | ok b => exact congrArg Except.ok (Option.some.inj h)

theorem plainText?_eq_some_iff {n : Node} {text : String} :
    plainText? n = some text ↔ n = .scalar (.ofPlain text) text := by
  unfold plainText?
  split
  · rename_i tag text'
    split_ifs with htag
    · subst htag
      rw [Option.some.injEq, Node.scalar.injEq]
      exact ⟨fun h => ⟨by rw [h], h⟩, fun h => h.2⟩
    · rw [Node.scalar.injEq]
      refine ⟨nofun, fun h => ?_⟩
      rw [h.1, h.2] at htag
      exact absurd rfl htag
  · rename_i hscalar
    exact ⟨nofun, fun h => absurd h (hscalar _ _)⟩

/-- A document with contents has the value that is unfolded from them. -/
theorem load_of_filled {text : String} {g : Graph} {contents : Array (Option Content)}
    (hg : Graph.ofText text.toList = .ok (some g)) (hfilled : g.filled = .ok contents) :
    load text = .ok (unfold contents (g.knots contents) (g.nodes.size + 1) [] g.root) := by
  unfold load
  rw [hg]
  show g.value = _
  rw [Graph.value_eq, hfilled]
  rfl

/-- **An item has its version from the value** of the numeral as which it is written. -/
theorem WrittenAs.version {text : String} {source : Option String} {w : Numeral} {i : Item}
    (h : WrittenAs text source w i) : i.version = (scalarOf w).display := by
  obtain ⟨items, k, hitems, hi, hwritten⟩ := h
  obtain ⟨g, hg, hwritten⟩ := Option.bind_eq_some_iff.mp hwritten
  obtain ⟨contents, hfilled, hwritten⟩ := Option.bind_eq_some_iff.mp hwritten
  obtain ⟨id, hid, hwritten⟩ := Option.bind_eq_some_iff.mp hwritten
  obtain ⟨n, hn, hplain⟩ := Option.bind_eq_some_iff.mp hwritten
  rw [plainText?_eq_some_iff.mp hplain] at hn
  have hfilled := eq_ok_of_toOption hfilled
  have hload := load_of_filled (eq_ok_of_toOption (Option.join_eq_some_iff.mp hg)) hfilled
  rw [structuredItems_of_load hload, itemsOfValue_eq_ok_iff (load_wellKeyed hload)] at hitems
  have hgives := hitems.resolve_right fun hblank => by
    rw [hblank.2] at hi
    cases hi
  obtain ⟨u, hu, hspells⟩ := stands_version (stands_root _ g.root) hgives hi hid
  have htyped : Build.IsTyped g.nodes id (.ofPlain w.text) w.text :=
    ⟨hn, fun hnone => nomatch typed_numeral w hnone⟩
  obtain ⟨hopen, hnull⟩ := open_of_spellsName hspells
  rcases hu.typed hfilled htyped with h | ⟨s, hs, h⟩
  · exact absurd (hopen.symm.trans h) hnull
  · obtain rfl : s = scalarOf w := Option.some.inj (typed_numeral w hs)
    rw [← hopen, h] at hspells
    exact eq_display_of_spellsName (ofNumeral_scalarOf w) hspells

/-! ### Distinct versions -/

/-- Items of one name have one identity if they have one version. -/
theorem id_eq_iff {i i' : Item} (hname : i.symbolicName = i'.symbolicName) :
    i.id = i'.id ↔ i.version = i'.version := by
  unfold Item.id
  rw [hname]
  refine ⟨fun h => String.toList_inj.mp ?_, fun h => by rw [h]⟩
  simpa using congrArg String.toList h

/-- A numeral with a point has the number that it is rounded to. -/
theorem scalarOf_of_short {w : Numeral} (h : w.Short) :
    scalarOf w = .float (Binary64.ofRational w.rational) := by
  unfold scalarOf
  rw [if_pos h.point]

theorem leftAsWritten_of_short {w : Numeral} (h : w.Short) : LeftAsWritten w ↔ w.Tidy := by
  unfold LeftAsWritten
  rw [if_pos h.point, h.kept_iff]

/-- **Written versions.** An item has its version as it is written exactly if the numeral is left as
it is written, and two items of one name have one identity exactly if their numerals have one value.
For decimals of at most fifteen digits this is so if there are no needless zeros, and if they write
the same rational. -/
theorem written_versions {text text' : String} {source source' : Option String} {w w' : Numeral}
    {i i' : Item} (h : WrittenAs text source w i) (h' : WrittenAs text' source' w' i')
    (hname : i.symbolicName = i'.symbolicName) :
    (i.version = w.text ↔ LeftAsWritten w) ∧
    (i.id = i'.id ↔ scalarOf w = scalarOf w') ∧
    (w.Short → (i.version = w.text ↔ w.Tidy)) ∧
    (w.Short → w'.Short → (i.id = i'.id ↔ w.rational = w'.rational)) := by
  have hversion : i.version = w.text ↔ LeftAsWritten w := by
    rw [h.version]
    exact display_scalarOf_eq_iff w
  have hid : i.id = i'.id ↔ scalarOf w = scalarOf w' := by
    rw [id_eq_iff hname, h.version, h'.version]
    exact ⟨(ofNumeral_scalarOf w).display_inj (ofNumeral_scalarOf w'), fun heq => by rw [heq]⟩
  refine ⟨hversion, hid, fun hw => ?_, fun hw hw' => ?_⟩
  · rw [hversion, leftAsWritten_of_short hw]
  · rw [hid, scalarOf_of_short hw, scalarOf_of_short hw', Scalar.float.injEq,
      hw.ofRational_eq_iff hw']

/-! ### Versions that are not kept apart -/

/-- A list with two releases of an item, in the versions `1.1` and `1.10`. -/
def twoReleases : String := "catalog: {items: [{id: a, version: 1.1}, {id: a, version: 1.10}]}"

/-- The item as which both releases are read. -/
def bothReleases : Item :=
  { symbolicName := "a", version := "1.1", source := some "mem://a" }

theorem structuredItems_twoReleases :
    structuredItems twoReleases (some "mem://a") = .ok [bothReleases, bothReleases] := by
  refine eq_ok_of_toOption ?_
  decide +kernel

theorem writtenVersion?_twoReleases :
    writtenVersion? twoReleases 0 = some "1.1" ∧ writtenVersion? twoReleases 1 = some "1.10" := by
  decide +kernel

/-- The second release has the identity of the first one, and not the version that is written. -/
theorem twoReleases_share_identity :
    ∃ i i', structuredItems twoReleases (some "mem://a") = .ok [i, i'] ∧
      i.symbolicName = i'.symbolicName ∧ writtenVersion? twoReleases 0 = some "1.1" ∧
      writtenVersion? twoReleases 1 = some "1.10" ∧ i.id = i'.id ∧ i'.version ≠ "1.10" :=
  ⟨bothReleases, bothReleases, structuredItems_twoReleases, rfl, writtenVersion?_twoReleases.1,
    writtenVersion?_twoReleases.2, rfl, by decide⟩

theorem isDigits_one : IsDigits ['1'] :=
  ⟨nofun, List.all_eq_true.mp (by decide)⟩

theorem isDigits_ten : IsDigits ['1', '0'] :=
  ⟨nofun, List.all_eq_true.mp (by decide)⟩

/-- The numeral `1.1`. -/
def oneOne : Numeral := .withPoint isDigits_one isDigits_one

/-- The numeral `1.10`. -/
def oneTen : Numeral := .withPoint isDigits_one isDigits_ten

theorem rational_oneOne : oneOne.rational = 11 / 10 := by
  have hvalue : digitsValue 10 ['1', '1'] = 11 := by decide
  show (digitsValue 10 ['1', '1'] : ℚ) * 10 ^ (-(1 : ℤ)) = _
  rw [hvalue]
  norm_num

theorem rational_oneTen : oneTen.rational = 11 / 10 := by
  have hvalue : digitsValue 10 ['1', '1', '0'] = 110 := by decide
  show (digitsValue 10 ['1', '1', '0'] : ℚ) * 10 ^ (-(2 : ℤ)) = _
  rw [hvalue]
  norm_num

theorem oneOne_short : oneOne.Short where
  point := rfl
  few := by decide
  least := by
    rw [rational_oneOne]
    norm_num

theorem oneTen_short : oneTen.Short where
  point := rfl
  few := by decide
  least := by
    rw [rational_oneTen]
    norm_num

theorem oneTen_not_tidy : ¬ oneTen.Tidy := by
  rintro ⟨-, ds, hds, hzero⟩
  obtain rfl : ['1', '0'] = ds := Option.some.inj hds
  unfold NoTrailingZero at hzero
  revert hzero
  decide

/-- The numerals write the same rational, and the second one has a needless zero. -/
theorem written_versions_of_twoReleases :
    WrittenAs twoReleases (some "mem://a") oneOne bothReleases ∧
    WrittenAs twoReleases (some "mem://a") oneTen bothReleases ∧
    scalarOf oneOne = scalarOf oneTen ∧ bothReleases.version ≠ oneTen.text ∧
    ¬ LeftAsWritten oneTen := by
  have hone : WrittenAs twoReleases (some "mem://a") oneOne bothReleases :=
    ⟨_, 0, structuredItems_twoReleases, rfl, writtenVersion?_twoReleases.1⟩
  have hten : WrittenAs twoReleases (some "mem://a") oneTen bothReleases :=
    ⟨_, 1, structuredItems_twoReleases, rfl, writtenVersion?_twoReleases.2⟩
  obtain ⟨-, hid, -, hsame⟩ := written_versions hone hten rfl
  obtain ⟨hversion, -, htidy, -⟩ := written_versions hten hten rfl
  have hids := (hsame oneOne_short oneTen_short).mpr (rational_oneOne.trans rational_oneTen.symm)
  have hdiffers : bothReleases.version ≠ oneTen.text :=
    fun h => oneTen_not_tidy ((htidy oneTen_short).mp h)
  exact ⟨hone, hten, hid.mp hids, hdiffers, fun h => hdiffers (hversion.mpr h)⟩

end ItemCatalog.Document
