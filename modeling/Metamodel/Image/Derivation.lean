import Metamodel.Image.Basic

/-!
# Deriving classes

A class is made below another by linking: it gets a superclass, the tag for its instances and
perhaps a name. A class whose superclass has a singleton class gets one as well, below that of
its superclass, so the singleton classes form a hierarchy beside that of the classes.
-/

namespace Metamodel

open ImageM

variable [ReentrantMutex]

namespace ImageM

/-- Refuse a class that cannot be inherited from; otherwise tell its owner. -/
def ownerForSubclass (receiver : ObjectId) : ImageM ObjectId := do
  let record ← ask (·.findClass receiver)
  if receiver = (← builtinClasses).anchor then throw .anchorSuperclass
  if record.isSingleton then throw .singletonSuperclass
  if !record.initialized then throw .uninitializedSuperclass
  pure record.owner

/-- Refuse an object that cannot be declared a superclass; otherwise tell the tag that it gives
to instances. -/
def tagFromSuperclass (superclass : ObjectId) : ImageM TypeTag := do
  if !(← view (·.isClass superclass)) then
    throw (.invalidSuperclass (← ask (·.ownerDisplayName superclass)))
  let record ← ask (·.findClass superclass)
  let _ ← ownerForSubclass superclass
  pure record.instanceTag

/-- Store a name, unless it is empty. -/
def storeName (name : String) : ImageM (Option ObjectId) :=
  if name.isEmpty then pure none else some <$> allocate (.text name)

/-- Make a class an initialized subclass. Without a tag of its own it takes over that of the
superclass; an empty name leaves the class as it was called before. -/
def joinUnder (superclass subclass : ObjectId) (name : String) (tag : Option TypeTag) :
    ImageM Unit := do
  let inherited := (← ask (·.findClass superclass)).instanceTag
  let _ ← ask (·.findClass subclass)
  let name ← storeName name
  editClass subclass fun record =>
    { record with
      name := name.or record.name
      superclass := some superclass
      instanceTag := tag.getD inherited
      initialized := true }

/-- Make a class the singleton class of an object. -/
def attachSingleton (object singleton : ObjectId) : ImageM Unit := do
  let _ ← ask (·.findHeader object)
  editClass singleton fun record => { record with isSingleton := true, attached := some object }
  change object (·.withSingleton singleton)

/-- Give a class a singleton class below that of its superclass, if the superclass has one. The
new singleton class is owned by the one above it and has no singleton class itself. -/
def deriveSingleton (superclass subclass : ObjectId) : ImageM Unit := do
  match (← ask (·.findClass superclass)).singleton with
  | none => pure ()
  | some above =>
      let tag := (← ask (·.findClass above)).instanceTag
      let singleton ← allocate (.classRecord (.fresh above))
      locked (joinUnder above singleton "" (some tag))
      attachSingleton subclass singleton
      emit (.singletonDerived subclass singleton)

/-- Link a class below another one. -/
def link (superclass subclass : ObjectId) (name : String) (tag : Option TypeTag) :
    ImageM Unit := locked do
  deriveSingleton superclass subclass
  joinUnder superclass subclass name tag

end ImageM

/-- A class declaration. Without a superclass the root is meant. -/
inductive Declaration (ρ : Type) where
  /-- Declare a class that has been allocated before. -/
  | initializeClass (declared : ρ) (superclass : Option ρ)
  /-- Declare a new class. -/
  | newClass (superclass : Option ρ)
  deriving DecidableEq, Inhabited

namespace Image

/-- Derive a class from another one, with its owner. -/
def subclass (receiver : ObjectId) (name : String) (tag : Option TypeTag) : ImageM ObjectId :=
  locked do
    let owner ← ownerForSubclass receiver
    let subclass ← allocate (.classRecord (.fresh owner))
    link receiver subclass name tag
    emit (.subclassCreated receiver subclass name)
    pure subclass

/-- A class that has an owner and nothing else. -/
def allocateClass : ImageM ObjectId := locked do
  allocate (.classRecord (.fresh (← builtinClasses).anchor))

/-- Link an allocated class below a superclass. -/
def initializeClass (declared : ObjectId) (superclass : Option ObjectId) : ImageM ObjectId :=
  locked do
    if (← ask (·.findClass declared)).initialized then throw .alreadyInitialized
    let superclass := superclass.getD (← builtinClasses).root
    let tag ← tagFromSuperclass superclass
    link superclass declared "" (some tag)
    emit (.classInitialized declared superclass)
    pure declared

/-- Make a class below a superclass. The superclass is examined before anything is allocated. -/
def newClass (superclass : Option ObjectId) : ImageM ObjectId := locked do
  let superclass := superclass.getD (← builtinClasses).root
  let tag ← tagFromSuperclass superclass
  let declared ← allocate (.classRecord (.fresh (← builtinClasses).anchor))
  link superclass declared "" (some tag)
  emit (.classCreated declared superclass)
  pure declared

/-- Carry out a declaration and tell the class that it is about. -/
def declare : Declaration ObjectId → ImageM ObjectId
  | .initializeClass declared superclass => initializeClass declared superclass
  | .newClass superclass => newClass superclass

/-- Name an anonymous class. A class that has a name keeps it. -/
def assignName (target : ObjectId) (name : String) : ImageM Unit := locked do
  let record ← ask (·.findClass target)
  if record.isSingleton then throw .singletonName
  if record.name.isNone then
    match ← storeName name with
    | some stored => editClass target fun record => { record with name := some stored }
    | none => pure ()

/-- An instance of a class, with the tag that the class gives to instances. -/
def newObject (owner : ObjectId) : ImageM ObjectId := locked do
  let record ← ask (·.findClass owner)
  if record.isSingleton then throw .singletonInstance
  if !record.initialized then throw .uninitializedClass
  allocate (.plain (.fresh record.instanceTag owner))

end Image

end Metamodel
