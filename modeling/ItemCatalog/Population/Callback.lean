import ItemCatalog.Fault

/-! # Callbacks: who is told about a pass

A callback is told about every pass that reaches its end. What it then does is told by its
behaviour: nothing, failing, or an action that it takes only so many times, and that may be another
pass. Behaviours are put together: one after the other, one in the place of another that fails, and
one after so many turns of another. The weight of callbacks bounds how many actions they can still
take, so it bounds how deep passes can be nested and how many callbacks can be added. -/

namespace ItemCatalog.Population

/-- What a callback does when it is told about a pass. It does nothing or fails; as often as it has
times left, it runs a pass, asks for the catalog, empties the slot, adds an item to the installed
catalog, or registers another callback. Of two it takes both actions, as far as the first one does
not fail, or the second one only if the first one fails in an ordinary way; or it takes its turns,
so many of them as one callback and all later ones as the other. -/
inductive Callback where
  | quiet
  | fails (e : Fault)
  | populates (times : Nat)
  | asks (times : Nat)
  | clears (times : Nat)
  | adds (item : Item) (times : Nat)
  | registers (other : Callback) (times : Nat)
  | both (first second : Callback)
  | recovers (first second : Callback)
  | turns (count : Nat) (first second : Callback)
deriving Inhabited

namespace Callback

/-- A turn of a callback: its action, and the callback with one time less. Failing has no end, and
of a callback that is put together every part has its turn, whether it comes to it or not. -/
def turn : Callback → Callback × Callback
  | .fails e => (.fails e, .fails e)
  | .populates (n + 1) => (.populates 1, .populates n)
  | .asks (n + 1) => (.asks 1, .asks n)
  | .clears (n + 1) => (.clears 1, .clears n)
  | .adds item (n + 1) => (.adds item 1, .adds item n)
  | .registers other (n + 1) => (.registers other 1, .registers other n)
  | .both c d => (.both c.turn.1 d.turn.1, .both c.turn.2 d.turn.2)
  | .recovers c d => (.recovers c.turn.1 d.turn.1, .recovers c.turn.2 d.turn.2)
  | .turns (n + 1) c d => (c.turn.1, .turns n c.turn.2 d)
  | .turns 0 c d => (d.turn.1, .turns 0 c d.turn.2)
  | c => (.quiet, c)

/-- How many actions a callback, and those that it registers, can still take at most, where a
registration counts once more for the callback that it adds. -/
def weight : Callback → Nat
  | .quiet => 0
  | .fails _ => 0
  | .populates n => n
  | .asks n => n
  | .clears n => n
  | .adds _ n => n
  | .registers other n => n * (other.weight + 2)
  | .both c d => c.weight + d.weight
  | .recovers c d => c.weight + d.weight
  | .turns _ c d => c.weight + d.weight

end Callback

/-- The weight of callbacks together. -/
def totalWeight (callbacks : List Callback) : Nat :=
  (callbacks.map Callback.weight).foldl (· + ·) 0

end ItemCatalog.Population
