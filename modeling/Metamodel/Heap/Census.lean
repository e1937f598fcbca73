import Metamodel.Heap.Pins
import Metamodel.Text.Padding

/-!
# Memory statistics

How many objects of each kind a heap holds, how many bytes they take, and how the slots are used.
-/

namespace Metamodel

/-- The kinds of object that are counted apart. A singleton class is counted as such before all
else, and an uninitialized class whether it is named or not. -/
inductive ObjectKind where
  | singletonClass
  | uninitializedClass
  | namedClass
  | anonymousClass
  | plain
  | text
  deriving DecidableEq, Inhabited

/-- The kind that a class is counted as. -/
def ClassRecord.kind (record : ClassRecord) : ObjectKind :=
  if record.isSingleton then .singletonClass
  else if !record.initialized then .uninitializedClass
  else if record.name.isSome then .namedClass
  else .anonymousClass

/-- The kind that an object is counted as. -/
def HeapObject.kind : HeapObject → ObjectKind
  | classRecord record => record.kind
  | plain _ => .plain
  | text _ => .text

/-- The figures of a heap. -/
structure Census where
  named : Nat
  anonymous : Nat
  singleton : Nat
  uninitialized : Nat
  plain : Nat
  texts : Nat
  bytes : Nat
  slots : Nat
  vacant : Nat
  pinned : Nat
  deriving DecidableEq, Inhabited

namespace Census

/-- The number of classes of all kinds. -/
def classes (census : Census) : Nat :=
  census.named + census.anonymous + census.singleton + census.uninitialized

/-- The number of objects of all kinds. -/
def total (census : Census) : Nat :=
  census.classes + census.plain + census.texts

/-- The report of a census, line by line. -/
def lines (census : Census) : List String :=
  ["=== Heap Memory Stats ===",
    "Classes:  " ++ Text.column 8 census.classes ++ " (" ++ toString census.named ++ " named, " ++
      toString census.anonymous ++ " anonymous, " ++ toString census.singleton ++
      " singleton, " ++ toString census.uninitialized ++ " uninitialized)",
    "Objects:  " ++ Text.column 8 census.plain,
    "Strings:  " ++ Text.column 8 census.texts,
    "--------------------------",
    "Total:    " ++ Text.column 8 census.total ++ " objects, " ++ Text.column 12 census.bytes ++
      " bytes",
    "Heap vec: " ++ Text.column 8 census.slots ++ " slots",
    "Free:     " ++ Text.column 8 census.vacant ++ " slots",
    "Pinned:   " ++ Text.column 8 census.pinned]

/-- The report of a census. -/
def report (census : Census) : String :=
  "\n".intercalate census.lines

end Census

namespace Heap

/-- The objects of a heap, in slot order. -/
def objects (heap : Heap) : List HeapObject :=
  heap.slots.toList.filterMap id

/-- The number of objects of one kind. -/
def countKind (heap : Heap) (kind : ObjectKind) : Nat :=
  heap.objects.countP fun object => object.kind = kind

/-- The figures of a heap. -/
def census (heap : Heap) : Census where
  named := heap.countKind .namedClass
  anonymous := heap.countKind .anonymousClass
  singleton := heap.countKind .singletonClass
  uninitialized := heap.countKind .uninitializedClass
  plain := heap.countKind .plain
  texts := heap.countKind .text
  bytes := heap.objects.foldr (fun object total => object.size + total) 0
  slots := heap.slotCount
  vacant := heap.vacant.length
  pinned := heap.pins.ids.length

end Heap

end Metamodel
