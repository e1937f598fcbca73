import Metamodel.Heap.Census
import Metamodel.Heap.Lineage
import Metamodel.Heap.Sweeping

/-!
# Inspections

The questions that can be asked about one object or about a whole heap, and the values that answer
them. Questions change nothing.
-/

namespace Metamodel.Session

/-- A question about one object. -/
inductive Inspection where
  | contains
  | isClass
  | isMarked
  | object
  | header
  | classRecord
  | text
  | references
  | className
  | displayName
  | backtraceName
  | ownerDisplayName
  | owner
  | tag
  | superclass
  | isSingleton
  | singleton
  | ancestors
  | dispatchChain
  deriving DecidableEq, Inhabited

/-- A question about a whole heap. -/
inductive Survey where
  | classes
  | pinned
  | census
  | slots
  deriving DecidableEq, Inhabited

/-- An object as it stands in a slot, with its display name or the reason why it has none. -/
structure Exhibit where
  object : HeapObject
  display : Except Fault String

/-- What a step can answer. -/
inductive Value where
  | nothing
  | flag (value : Bool)
  | id (id : ObjectId)
  | ids (ids : List ObjectId)
  | text (content : String)
  | tag (tag : TypeTag)
  | header (header : Header)
  | classRecord (record : ClassRecord)
  | object (object : HeapObject)
  | tally (tally : Tally)
  | slots (exhibits : List (Option Exhibit))

namespace Value

/-- An id that may be missing. -/
def ofId? : Option ObjectId → Value
  | some known => .id known
  | none => .nothing

/-- A text that may be missing. -/
def ofText? : Option String → Value
  | some known => .text known
  | none => .nothing

/-- A tally that may be missing. -/
def ofTally? : Option Tally → Value
  | some known => .tally known
  | none => .nothing

end Value

/-- The answer to a question about one object. -/
def Inspection.answer (inspection : Inspection) (heap : Heap) (id : ObjectId) :
    Except Fault Value :=
  match inspection with
  | .contains => pure (.flag (heap.contains id))
  | .isClass => pure (.flag (heap.isClass id))
  | .isMarked => pure (.flag (heap.isMarked id))
  | .object => .object <$> heap.find id
  | .header => .header <$> heap.findHeader id
  | .classRecord => .classRecord <$> heap.findClass id
  | .text => .text <$> heap.findText id
  | .references => (fun object => .ids object.references.mergeSort) <$> heap.find id
  | .className => .ofText? <$> heap.className id
  | .displayName => .text <$> heap.displayName id
  | .backtraceName => .text <$> heap.backtraceName id
  | .ownerDisplayName => .text <$> heap.ownerDisplayName id
  | .owner => (fun header => .id header.owner) <$> heap.findHeader id
  | .tag => (fun header => .tag header.tag) <$> heap.findHeader id
  | .superclass => (fun record => .ofId? record.superclass) <$> heap.findClass id
  | .isSingleton => (fun record => .flag record.isSingleton) <$> heap.findClass id
  | .singleton => (fun header => .ofId? header.singleton) <$> heap.findHeader id
  | .ancestors => .ids <$> heap.ancestors id
  | .dispatchChain => .ids <$> heap.dispatchChain id

/-- The answer to a question about a whole heap. -/
def Survey.answer (survey : Survey) (heap : Heap) : Value :=
  match survey with
  | .classes => .ids (heap.liveIds.filter heap.isClass)
  | .pinned => .ids heap.pinned
  | .census => .text heap.census.report
  | .slots => .slots <| (List.range heap.slotCount).map fun id =>
      (heap.get? id).map fun object => ⟨object, heap.displayName id⟩

end Metamodel.Session
