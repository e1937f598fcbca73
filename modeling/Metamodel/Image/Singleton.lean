import Metamodel.Image.Derivation

/-!
# Singleton classes

Every class and instance can have a class of its own. It is made on demand, below the class of an
instance, and for a class below the singleton class of its superclass, which is made first when
it is missing. The singleton class of the root is below the class of all classes.

## Implementation notes

The superclass chain ends and visits no class twice, so one step for each slot and one more are
enough.
-/

namespace Metamodel

open ImageM

variable [ReentrantMutex]

namespace ImageM

/-- Where the singleton class of an object belongs. -/
inductive SingletonPlace where
  /-- Below this class. -/
  | below (superclass : ObjectId)
  /-- Below the singleton class of this class. -/
  | belowSingletonOf (superclass : ObjectId)
  deriving DecidableEq, Inhabited

/-- Where the singleton class of an object without one belongs. An uninitialized class has no
place for it yet. -/
def singletonPlace (object : ObjectId) (header : Header) : ImageM SingletonPlace := do
  match (← view (·.get? object)).bind HeapObject.classRecord? with
  | none => pure (.below header.owner)
  | some record =>
      if !record.initialized then throw .uninitializedClass
      match record.superclass with
      | some superclass => pure (.belowSingletonOf superclass)
      | none => pure (.below (← builtinClasses).anchor)

/-- Make the singleton class of an object below a class, with the owner and the tag of that
class. -/
def makeSingleton (object superclass : ObjectId) : ImageM ObjectId := do
  let record ← ask (·.findClass superclass)
  let singleton ← allocate (.classRecord (.fresh record.owner))
  link superclass singleton "" (some record.instanceTag)
  attachSingleton object singleton
  emit (.singletonCreated object singleton superclass)
  pure singleton

/-- The singleton class of an object, with at most `steps` objects on the way up. -/
def singletonClassWithin : Nat → ObjectId → ImageM ObjectId
  | 0, object => throw (.endlessChain object)
  | steps + 1, object => locked do
      let header ← ask (·.findHeader object)
      match header.singleton with
      | some singleton => pure singleton
      | none =>
          match ← singletonPlace object header with
          | .below superclass => makeSingleton object superclass
          | .belowSingletonOf superclass =>
              let above ← singletonClassWithin steps superclass
              makeSingleton object above

end ImageM

/-- The singleton class of an object, made if it is missing. -/
def Image.singletonClass (object : ObjectId) : ImageM ObjectId := do
  singletonClassWithin ((← view Heap.slotCount) + 1) object

end Metamodel
