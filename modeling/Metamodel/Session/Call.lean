import Metamodel.Image.Collection
import Metamodel.Image.Singleton
import Metamodel.Session.Inspection
import Metamodel.Session.Reference

/-!
# Calls

A call is one operation on an image as a value: which operation, on which objects, with which
names, tags and roots. Its objects are given by references until the call is resolved.
-/

namespace Metamodel

/-- The same declaration about the objects that a partial function gives. Its objects are looked
up in the order in which they are written. -/
def Declaration.traverse {ρ σ : Type} (f : ρ → Except String σ) :
    Declaration ρ → Except String (Declaration σ)
  | .initializeClass declared superclass => do
      let declared ← f declared
      pure (.initializeClass declared (← superclass.mapM f))
  | .newClass superclass => .newClass <$> superclass.mapM f

namespace Session

/-- One operation on an image. -/
inductive Call (ρ : Type) where
  | subclass (receiver : ρ) (name : String) (tag : Option TypeTag)
  | declare (declaration : Declaration ρ)
  | allocateClass
  | newObject (owner : ρ)
  | assignName (target : ρ) (name : String)
  | singletonClass (object : ρ)
  | collect (roots : List ρ)
  | collectIfDue (roots : List ρ)
  | pin (object : ρ)
  | unpin (object : ρ)
  | builtins
  | inspect (question : Inspection) (object : ρ)
  | survey (question : Survey)
  | isLocked
  | tryLock (contender : Contender)
  deriving DecidableEq, Inhabited

namespace Call

variable {ρ σ : Type}

/-- The same call on the objects that a partial function gives. -/
def traverse (f : ρ → Except String σ) : Call ρ → Except String (Call σ)
  | .subclass receiver name tag => (.subclass · name tag) <$> f receiver
  | .declare declaration => .declare <$> declaration.traverse f
  | .allocateClass => pure .allocateClass
  | .newObject owner => .newObject <$> f owner
  | .assignName target name => (.assignName · name) <$> f target
  | .singletonClass object => .singletonClass <$> f object
  | .collect roots => .collect <$> roots.mapM f
  | .collectIfDue roots => .collectIfDue <$> roots.mapM f
  | .pin object => .pin <$> f object
  | .unpin object => .unpin <$> f object
  | .builtins => pure .builtins
  | .inspect question object => .inspect question <$> f object
  | .survey question => pure (.survey question)
  | .isLocked => pure .isLocked
  | .tryLock contender => pure (.tryLock contender)

/-- Carry out a call. -/
def perform [ReentrantMutex] : Call ObjectId → ImageM Value
  | .subclass receiver name tag => .id <$> Image.subclass receiver name tag
  | .declare declaration => .id <$> Image.declare declaration
  | .allocateClass => .id <$> Image.allocateClass
  | .newObject owner => .id <$> Image.newObject owner
  | .assignName target name => (fun _ => .nothing) <$> Image.assignName target name
  | .singletonClass object => .id <$> Image.singletonClass object
  | .collect roots => .tally <$> Image.collect roots
  | .collectIfDue roots => .ofTally? <$> Image.collectIfDue roots
  | .pin object => (fun _ => .nothing) <$> Image.pin object
  | .unpin object => .flag <$> Image.unpin object
  | .builtins => (fun builtins => .ids builtins.toList) <$> ImageM.builtinClasses
  | .inspect question object => ImageM.locked (ImageM.ask (question.answer · object))
  | .survey question => ImageM.locked (ImageM.view question.answer)
  | .isLocked => fun image => .ok (.flag image.lock.isHeld) image
  | .tryLock contender => fun image => .ok (.flag (image.lock.admits contender)) image

end Call

end Session

end Metamodel
