import Metamodel.Image.Derivation

/-!
# The first image

An image starts with four built-in classes. The class of all classes owns itself and the root has
no superclass; these two and the singleton class of the root are put in place by hand. The other
two are derived by the ordinary rules, and then the class of all classes is placed below the last
of them.
-/

namespace Metamodel

open ImageM

variable [ReentrantMutex]

namespace ImageM

/-- Make the class of all classes, which owns itself. -/
def makeAnchor : ImageM ObjectId := do
  let own ← view Heap.nextId
  let anchor ← allocate (.classRecord
    { ClassRecord.fresh own with instanceTag := .classTag, initialized := true })
  let name ← allocate (.text "Class")
  editClass anchor fun record => { record with name := some name }
  emit (.anchorMade anchor)
  pure anchor

/-- Make the root of the hierarchy and its singleton class. -/
def makeRoot (anchor : ObjectId) : ImageM ObjectId := do
  let name ← allocate (.text "BasicObject")
  let root ← allocate (.classRecord
    { ClassRecord.fresh anchor with name := some name, initialized := true })
  let singleton ← allocate (.classRecord (.fresh anchor))
  joinUnder anchor singleton "" none
  attachSingleton root singleton
  emit (.rootMade root singleton)
  pure root

/-- Say which classes are the built-in ones. -/
def setBuiltins (builtins : Builtins) : ImageM Unit := fun image =>
  .ok () { image with builtins }

/-- Make the built-in classes. -/
def genesis : ImageM Unit := do
  let anchor ← makeAnchor
  let root ← makeRoot anchor
  setBuiltins ⟨anchor, root, root, root⟩
  let objectClass ← Image.subclass root "Object" none
  let moduleClass ← Image.subclass objectClass "Module" (some .moduleTag)
  setBuiltins ⟨anchor, root, objectClass, moduleClass⟩
  locked (editClass anchor fun record => { record with superclass := some moduleClass })
  emit (.hierarchyReady anchor root objectClass moduleClass)

end ImageM

namespace Image

/-- An image without objects. -/
def blank (settings : Settings) : Image where
  heap := .empty settings
  builtins := ⟨0, 0, 0, 0⟩
  settings := settings
  lock := .free
  journal := #[]

/-- An image with the built-in classes in it. -/
def start (settings : Settings) : Except Fault Image :=
  match genesis (blank settings) with
  | .ok _ image => .ok image
  | .error fault _ => .error fault

end Image

end Metamodel
