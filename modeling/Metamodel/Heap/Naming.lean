import Metamodel.Heap.Lookup
import Metamodel.Text.Quoted

/-!
# Display names

Every object has a name for display. A named class shows its name and a text its quoted form; a
singleton class is shown by the object it is attached to, and anything else by its owner and its
id. Names are computed from the graph as it is and never stored, so a name given late shows in
every name that leads to it.

## Implementation notes

One step of the computation is a `NameForm`. A chain of steps that ends visits no object twice,
so one step for each slot and one more for an id without an object are enough.
-/

namespace Metamodel

/-- How the display name of one object comes about. -/
inductive NameForm where
  /-- The name is this text. -/
  | literal (text : String)
  /-- The name is stored in a text of the heap. -/
  | stored (name : ObjectId)
  /-- The name is that of another object between two texts. -/
  | around (before : String) (inner : ObjectId) (after : String)
  deriving DecidableEq, Inhabited

/-- The form of a name that shows the owner and the id. -/
def NameForm.ofOwner (owner id : ObjectId) : NameForm :=
  .around "#<" owner (":" ++ id.text ++ ">")

/-- How the class with the given id is named. -/
def ClassRecord.nameForm (record : ClassRecord) (id : ObjectId) : NameForm :=
  match record.attached.filter fun _ => record.isSingleton, record.name with
  | some object, _ => .around "#<Class:" object ">"
  | none, some name => .stored name
  | none, none => .ofOwner record.owner id

/-- How the object with the given id is named. -/
def HeapObject.nameForm (object : HeapObject) (id : ObjectId) : NameForm :=
  match object with
  | classRecord record => record.nameForm id
  | plain header => .ofOwner header.owner id
  | text content => .literal (Text.quoted content)

namespace Heap

/-- The display name of an object, in at most `steps` steps. -/
def displayNameWithin (heap : Heap) : Nat → ObjectId → Except Fault String
  | 0, id => throw (.endlessChain id)
  | steps + 1, id => do
      match (← heap.find id).nameForm id with
      | .literal text => pure text
      | .stored name => heap.findText name
      | .around before inner after =>
          let name ← heap.displayNameWithin steps inner
          pure (before ++ name ++ after)

/-- The display name of an object. -/
def displayName (heap : Heap) (id : ObjectId) : Except Fault String :=
  heap.displayNameWithin (heap.slotCount + 1) id

/-- The display name of the class that an object is an instance of. -/
def ownerDisplayName (heap : Heap) (id : ObjectId) : Except Fault String := do
  match (← heap.find id).header? with
  | some header => heap.displayName header.owner
  | none => pure TypeTag.string.name

end Heap

end Metamodel
