import Metamodel.Object.Id

/-!
# Faults

Why an operation on the object model is refused. Each cause has one text.
-/

namespace Metamodel

/-- The cause of a refusal. -/
inductive Fault where
  /-- The class has been initialized before. -/
  | alreadyInitialized
  /-- The value given as a superclass is not a class but an instance of `given`. -/
  | invalidSuperclass (given : String)
  /-- The class of all classes cannot be inherited from. -/
  | anchorSuperclass
  /-- A singleton class cannot be inherited from. -/
  | singletonSuperclass
  /-- The object with the given display name is not a class. -/
  | notAClass (display : String)
  /-- No object, or none of the kind asked for, has this id. -/
  | unknownObject (id : ObjectId)
  /-- An uninitialized class has no instances and no singleton class. -/
  | uninitializedClass
  /-- An uninitialized class cannot be inherited from. -/
  | uninitializedSuperclass
  /-- A singleton class has no instances of its own. -/
  | singletonInstance
  /-- A singleton class takes its name from its object. -/
  | singletonName
  /-- A chain of references that should end leads back into itself at this id. -/
  | endlessChain (id : ObjectId)
  deriving DecidableEq, Inhabited

/-- The text of a fault. -/
def Fault.message : Fault → String
  | alreadyInitialized => "already initialized class"
  | invalidSuperclass given =>
      "superclass must be an instance of Class (given an instance of " ++ given ++ ")"
  | anchorSuperclass => "can't make subclass of Class"
  | singletonSuperclass => "can't make subclass of singleton class"
  | notAClass display => display ++ " is not a class"
  | unknownObject id => "unknown object id " ++ id.text
  | uninitializedClass => "can't instantiate uninitialized class"
  | uninitializedSuperclass => "can't inherit uninitialized class"
  | singletonInstance => "can't create instance of singleton class"
  | singletonName => "can't name a singleton class"
  | endlessChain id => "endless chain at object id " ++ id.text

end Metamodel
