import Metamodel.Heap.Classes

/-!
# Lineage

The superclass chain of a class, and the classes that a method lookup on an object visits. A
chain that ends visits no class twice, so one step for each slot and one more are enough.
-/

namespace Metamodel.Heap

/-- The superclass chain of a class, in at most `steps` steps. -/
def ancestorsWithin (heap : Heap) : Nat → ObjectId → Except Fault (List ObjectId)
  | 0, id => throw (.endlessChain id)
  | steps + 1, id => do
      match (← heap.findClass id).superclass with
      | some superclass =>
          let rest ← heap.ancestorsWithin steps superclass
          pure (id :: rest)
      | none => pure [id]

/-- The superclass chain of a class, from the class itself to the root. -/
def ancestors (heap : Heap) (id : ObjectId) : Except Fault (List ObjectId) :=
  heap.ancestorsWithin (heap.slotCount + 1) id

/-- The classes that a lookup on an object visits: the ancestors of its singleton class if it has
one, those of its class otherwise. -/
def dispatchChain (heap : Heap) (id : ObjectId) : Except Fault (List ObjectId) := do
  let header ← heap.findHeader id
  heap.ancestors (header.singleton.getD header.owner)

end Metamodel.Heap
