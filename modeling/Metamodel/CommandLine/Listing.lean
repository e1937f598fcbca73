import Metamodel.Heap.Lineage
import Metamodel.Image.Basic

/-!
# Listings

The class graph, one line a class, and superclass chains, one line a chain. Objects are shown by
their display names; where there is none, the reason stands between angle brackets.
-/

namespace Metamodel.CommandLine

/-- An object in a listing. -/
def shown (heap : Heap) (id : ObjectId) : String :=
  match heap.displayName id with
  | .ok name => name
  | .error fault => "<" ++ fault.message ++ ">"

/-- An object that may be missing, in a listing. -/
def shown? (heap : Heap) : Option ObjectId → String
  | some id => shown heap id
  | none => "-"

/-- The marks that a class has in a listing. -/
def classMarks (record : ClassRecord) : List String :=
  (if record.isSingleton then ["singleton"] else []) ++
    (if record.initialized then [] else ["uninitialized"])

/-- The line of one class in the class graph. -/
def classLine (heap : Heap) (id : ObjectId) (record : ClassRecord) : String :=
  let marks := classMarks record
  id.text ++ " " ++ shown heap id ++ " super=" ++ shown? heap record.superclass ++
    " class=" ++ shown heap record.owner ++ " singleton=" ++ shown? heap record.singleton ++
    (if marks.isEmpty then "" else " " ++ ",".intercalate marks)

/-- The class graph, in slot order. -/
def graphLines (heap : Heap) : List String :=
  heap.liveIds.filterMap fun id =>
    ((heap.get? id).bind HeapObject.classRecord?).map (classLine heap id)

/-- The superclass chain of a class on one line. -/
def chainLine (heap : Heap) (id : ObjectId) : Except Fault String := do
  let chain ← heap.ancestors id
  pure (" < ".intercalate (chain.map (shown heap)))

/-- The built-in class with the given name. -/
def builtinNamed? [ReentrantMutex] (image : Image) (name : String) : Option ObjectId :=
  image.builtins.toList.find? fun id =>
    match image.heap.className id with
    | .ok stored => stored = some name
    | .error _ => false

end Metamodel.CommandLine
