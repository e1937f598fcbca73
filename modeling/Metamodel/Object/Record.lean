import Metamodel.Object.Id
import Metamodel.Object.TypeTag

/-!
# Records of heap objects

A heap slot holds a class, a plain instance, or the text of a name. Classes and instances carry
a header that says which class owns them; texts are storage only and carry none.

-/

namespace Metamodel

/-- What every class and instance carries besides its id. -/
structure Header where
  tag : TypeTag
  /-- The class that the object is an instance of. -/
  owner : ObjectId
  /-- The class private to this object, once it has been made. -/
  singleton : Option ObjectId
  deriving DecidableEq, Inhabited

/-- The header of a new object has no singleton class. -/
def Header.fresh (tag : TypeTag) (owner : ObjectId) : Header :=
  ⟨tag, owner, none⟩

/-- The ids that a header refers to. -/
def Header.references (header : Header) : List ObjectId :=
  header.owner :: header.singleton.toList

/-- A class of the object model. -/
structure ClassRecord extends header : Header where
  /-- The heap text that holds the name; anonymous and singleton classes have none. -/
  name : Option ObjectId
  superclass : Option ObjectId
  /-- The tag given to instances. -/
  instanceTag : TypeTag
  initialized : Bool
  /-- Whether the class is private to one object. -/
  isSingleton : Bool
  /-- The object whose singleton class this is. -/
  attached : Option ObjectId
  deriving DecidableEq, Inhabited

namespace ClassRecord

/-- A class that has an owner and nothing else: no name, no superclass, not initialized. -/
def fresh (owner : ObjectId) : ClassRecord where
  header := .fresh .classTag owner
  name := none
  superclass := none
  instanceTag := .object
  initialized := false
  isSingleton := false
  attached := none

/-- The ids that a class refers to. -/
def references (record : ClassRecord) : List ObjectId :=
  record.header.references ++ record.superclass.toList ++ record.attached.toList ++
    record.name.toList

end ClassRecord

/-- What a heap slot can hold. -/
inductive HeapObject where
  | classRecord (record : ClassRecord)
  | plain (header : Header)
  | text (content : String)
  deriving DecidableEq, Inhabited

namespace HeapObject

/-- The header of an object; a text has none. -/
def header? : HeapObject → Option Header
  | classRecord record => some record.header
  | plain header => some header
  | text _ => none

/-- The class stored in an object that is one. -/
def classRecord? : HeapObject → Option ClassRecord
  | classRecord record => some record
  | _ => none

/-- The ids that an object refers to. -/
def references : HeapObject → List ObjectId
  | classRecord record => record.references
  | plain header => header.references
  | text _ => []

/-- The size of an object in bytes: a fixed part for each object, a further one for a class, and
the encoded length of a text. -/
def size : HeapObject → Nat
  | classRecord _ => 32 + 88
  | plain _ => 32
  | text content => 32 + content.utf8ByteSize

/-- The object with its singleton class set; a text is left alone. -/
def withSingleton (singleton : ObjectId) : HeapObject → HeapObject
  | classRecord record => classRecord { record with singleton := some singleton }
  | plain header => plain { header with singleton := some singleton }
  | text content => text content

/-- The object with its class replaced by an edited one; anything else is left alone. -/
def withClass (edit : ClassRecord → ClassRecord) : HeapObject → HeapObject
  | classRecord record => classRecord (edit record)
  | object => object

/-- The references of a class or an instance are those of its header and, for a class, its
superclass, the object it is attached to and its name. -/
theorem mem_references_classRecord {record : ClassRecord} {id : ObjectId} :
    id ∈ (classRecord record).references ↔
      id = record.owner ∨ record.singleton = some id ∨ record.superclass = some id ∨
        record.attached = some id ∨ record.name = some id := by
  simp [references, ClassRecord.references, Header.references, Option.mem_toList]

theorem eq_of_classRecord? {object : HeapObject} {record : ClassRecord}
    (isClass : object.classRecord? = some record) : object = classRecord record := by
  cases object with
  | classRecord other =>
      cases isClass
      rfl
  | plain header => cases isClass
  | text content => cases isClass

end HeapObject

end Metamodel
