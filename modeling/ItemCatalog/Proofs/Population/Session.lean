import ItemCatalog.Proofs.Population.Passes

/-! # Sessions: commands one after the other

A session is a list of commands to one initialization, which may serve several contexts in turn.
Every command gives an answer, and a command that fails leaves the state in which it failed to the
next one. A command keeps what its stages and its callbacks keep (`command_keeps`). -/

namespace ItemCatalog.Population

/-- What an initialization is told to do: a pass; to give the installed catalog, or a new one, as a
best effort or for the context; to apply the load mode, load the initial catalog, add the additions
or tell the callbacks, each alone; to install a catalog; or to turn to another context. -/
inductive Command where
  | populate (needsInitial : Bool) (items : Option Catalog.Handover)
  | bestEffort
  | getCatalog
  | applyLoadMode
  | populateInitial (name : CatalogName)
  | populateAdditions (name : CatalogName)
  | tell
  | install (new : CatalogName) (message : Option String) (preferNew : Bool)
  | enter (context : Context)

/-- What a command answers. -/
inductive Answer where
  | done (r : Except Fault Unit)
  | name (r : Except Fault CatalogName)
  | slot (r : Except Fault (Option CatalogName))
  | load (r : Except Fault (Option LoadResult))
  | items (r : Except Fault (Option (List Item)))

/-- A step as a command: its fault is an answer, too. -/
def answer {α : Type} (f : Except Fault α → Answer) (p : Step α) (s : State) : Answer × State :=
  (f (p s).1, (p s).2)

theorem answer_snd {α : Type} (f : Except Fault α → Answer) (p : Step α) (s : State) :
    (answer f p s).2 = (p s).2 := rfl

/-- **The answer** of a command, and the state that it leaves. -/
def Command.run : Command → State → Answer × State
  | .populate needsInitial items =>
    answer .name (nested fun inner => populateCatalog inner needsInitial items)
  | .bestEffort => answer .slot (nested Population.bestEffort)
  | .getCatalog => answer .slot (nested Population.getCatalog)
  | .applyLoadMode => answer .done Population.applyLoadMode
  | .populateInitial name => answer .load (Population.populateInitial name)
  | .populateAdditions name => answer .items (Population.populateAdditions name)
  | .tell => answer .done (nested tellAll)
  | .install new message preferNew => answer .slot (Population.install new message preferNew)
  | .enter context => fun s => (.done (.ok ()), { s with context })

/-- **The answers** of commands, and the state that they leave. -/
def session : List Command → State → List Answer × State
  | [], s => ([], s)
  | c :: rest, s =>
    ((c.run s).1 :: (session rest (c.run s).2).1, (session rest (c.run s).2).2)

theorem session_append (first rest : List Command) (s : State) :
    session (first ++ rest) s =
      ((session first s).1 ++ (session rest (session first s).2).1,
        (session rest (session first s).2).2) := by
  induction first generalizing s with
  | nil => rfl
  | cons c first ih => rw [List.cons_append, session, ih, session, List.cons_append]

/-! ### Invariants -/

section Keeps

open Step

variable {C : Callback → Prop} {I : State → Prop} (hC : Closed C) (hallows : Allows C I)
  (hserves : Serves I) (hplaces : Places I) (hmode : Keeps I applyLoadMode)
  (hclear : ∀ n, C (.clears n) → ∀ s, I s → I (s.write none))
include hC hallows hserves hplaces hmode hclear

theorem served_passes_keep (depth : Nat) : InnerKeeps I (passes depth) :=
  passes_keep hplaces (fun _ hin name =>
    served_stages_keep hC hallows hserves (fun _ => hplaces.look) hclear hin hmode name true none)
    depth

/-- **A command** keeps what its stages and its callbacks keep, if what it installs or brings along
does. -/
theorem command_keeps {c : Command} {s : State} (hs : I s)
    (hinstall : ∀ new message preferNew, c = .install new message preferNew →
      I (Population.install new message preferNew s).2)
    (henter : ∀ context, c = .enter context → I { s with context }) : I (c.run s).2 := by
  have hin : InnerKeeps I (passes (totalWeight s.callbacks)) :=
    served_passes_keep hC hallows hserves hplaces hmode hclear _
  have hlook : Keeps I look := fun _ => hplaces.look
  have hstages := fun name needsInitial items =>
    served_stages_keep hC hallows hserves hlook hclear hin hmode name needsInitial items
  have hbest : Keeps I (Population.bestEffort (passes (totalWeight s.callbacks))) :=
    bestEffort_keeps hplaces fun _ _ => hstages _ true none
  cases c with
  | populate needsInitial items =>
    rw [Command.run, answer_snd, nested_run]
    exact populateCatalog_keeps hplaces (fun _ _ => hstages _ needsInitial items) s hs
  | bestEffort =>
    rw [Command.run, answer_snd, nested_run]
    exact hbest s hs
  | getCatalog =>
    rw [Command.run, answer_snd, nested_run]
    exact getCatalog_keeps hplaces hbest s hs
  | applyLoadMode => exact hmode s hs
  | populateInitial name => exact populateInitial_keeps hserves name s hs
  | populateAdditions name => exact populateAdditions_keeps hserves name s hs
  | tell =>
    rw [Command.run, answer_snd, nested_run]
    exact served_tellAll_keeps hC hallows hserves hlook hclear hin s hs
  | install new message preferNew => exact hinstall new message preferNew rfl
  | enter context => exact henter context rfl

end Keeps

end ItemCatalog.Population
