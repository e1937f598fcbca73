import Mathlib.Data.List.Forall2
import Metamodel.Proofs.Causes
import Metamodel.Proofs.Renaming

/-!
# Corresponding answers

Questions about objects that stand for each other are answered alike: with refusals of one kind,
or with values that agree up to the names of objects. Nothing in an answer depends on the slot of
an object or on anything that the object does not lead to, except the texts in which a refusal
displays an object.
-/

namespace Metamodel

open Session

/-- The kind of a fault, without the object or the text that it reports. -/
def Fault.kind : Fault → Fault
  | .invalidSuperclass _ => .invalidSuperclass ""
  | .notAClass _ => .notAClass ""
  | .unknownObject _ => .unknownObject 0
  | .endlessChain _ => .endlessChain 0
  | fault => fault

/-- Two faults are of one kind. -/
abbrev Fault.SameKind (fault other : Fault) : Prop :=
  fault.kind = other.kind

/-- Two questions are both refused, for corresponding reasons, or both answered, with related
answers. -/
inductive EndAlike {ε α β : Type} (reasons : ε → ε → Prop) (related : α → β → Prop) :
    Except ε α → Except ε β → Prop
  | refused {reason reason' : ε} : reasons reason reason' →
      EndAlike reasons related (.error reason) (.error reason')
  | answered {value : α} {value' : β} : related value value' →
      EndAlike reasons related (.ok value) (.ok value')

/-- Two questions about images are refused for faults of one kind, or answered. -/
abbrev Answered {α β : Type} (related : α → β → Prop) : Except Fault α → Except Fault β → Prop :=
  EndAlike Fault.SameKind related

namespace EndAlike

variable {ε α β γ δ : Type} {reasons : ε → ε → Prop} {related : α → β → Prop}
  {relatedNext : γ → δ → Prop} {question : Except ε α} {question' : Except ε β}

theorem bind {next : α → Except ε γ} {next' : β → Except ε δ}
    (first : EndAlike reasons related question question')
    (further : ∀ {value value'}, related value value' →
      EndAlike reasons relatedNext (next value) (next' value')) :
    EndAlike reasons relatedNext (question >>= next) (question' >>= next') := by
  cases first with
  | refused same => exact .refused same
  | answered alike => exact further alike

theorem map {f : α → γ} {g : β → δ} (first : EndAlike reasons related question question')
    (further : ∀ {value value'}, related value value' → relatedNext (f value) (g value')) :
    EndAlike reasons relatedNext (f <$> question) (g <$> question') := by
  cases first with
  | refused same => exact .refused same
  | answered alike => exact .answered (further alike)

end EndAlike

namespace Heap

/-- The superclass chain of a class corresponds to that of the class that stands for it. -/
theorem Lineage.alike {f : Renaming} {heap other : Heap} {root root' id : ObjectId}
    {chain : List ObjectId} (lineage : heap.Lineage root id chain)
    (resembles : Resembles f heap other) (roots : f.Sends root root') {id' : ObjectId}
    (sends : f.Sends id id') :
    ∃ chain', other.Lineage root' id' chain' ∧ List.Forall₂ f.Sends chain chain' := by
  induction lineage generalizing id' with
  | root stored started top =>
      obtain rfl := sends.unique roots
      obtain ⟨record', stored', alike⟩ := resembles.classRecord sends stored
      have top' := eq_none_of_rel alike.superclass top
      exact ⟨_, .root stored' (alike.initialized.symm.trans started) top', .cons sends .nil⟩
  | under stored started next _ ih =>
      obtain ⟨record', stored', alike⟩ := resembles.classRecord sends stored
      obtain ⟨superclass', next', sends'⟩ := exists_of_rel alike.superclass next
      obtain ⟨chain', lineage', chains⟩ := ih sends'
      exact ⟨_, .under stored' (alike.initialized.symm.trans started) next' lineage',
        .cons sends chains⟩

/-- What is no class has no chain. -/
theorem ancestors_of_error {heap : Heap} {id : ObjectId} {fault : Fault}
    (refused : heap.findClass id = .error fault) : heap.ancestors id = .error fault := by
  rw [ancestors, ancestorsWithin, refused]
  rfl

end Heap

/-- A renaming relates two images: it relates their heaps and renames each built-in class of the
one to the same built-in class of the other. -/
structure Image.Resembles [ReentrantMutex] (f : Renaming) (image other : Image) : Prop where
  heap : Heap.Resembles f image.heap other.heap
  anchor : f.Sends image.builtins.anchor other.builtins.anchor
  root : f.Sends image.builtins.root other.builtins.root
  objectClass : f.Sends image.builtins.objectClass other.builtins.objectClass
  moduleClass : f.Sends image.builtins.moduleClass other.builtins.moduleClass

namespace Image.Resembles

variable [ReentrantMutex] {f : Renaming} {image other : Image} {settings settings' : Settings}
  {calls calls' : List (Call ObjectId)} {id id' : ObjectId}
  (resembles : Image.Resembles f image other) (reached : Reached settings calls image)
  (reached' : Reached settings' calls' other)
include resembles

theorem find (sends : f.Sends id id') :
    Answered (HeapObject.Alike f) (image.heap.find id) (other.heap.find id') := by
  obtain ⟨object, object', stored, stored', alike⟩ := resembles.heap.object sends
  rw [Heap.find_eq_ok_iff.mpr stored, Heap.find_eq_ok_iff.mpr stored']
  exact .answered alike

theorem findHeader (sends : f.Sends id id') :
    Answered (Header.Alike f) (image.heap.findHeader id) (other.heap.findHeader id') := by
  refine (resembles.find sends).bind fun {object object'} alike => ?_
  have headers := alike.header?
  cases isHeader : object.header? with
  | none =>
      rw [eq_none_of_rel headers isHeader]
      exact .refused rfl
  | some header =>
      obtain ⟨header', isHeader', alike⟩ := exists_of_rel headers isHeader
      rw [isHeader']
      exact .answered alike

theorem findText (sends : f.Sends id id') :
    Answered Eq (image.heap.findText id) (other.heap.findText id') := by
  refine (resembles.find sends).bind fun {object object'} alike => ?_
  cases alike with
  | classRecord _ => exact .refused rfl
  | plain _ => exact .refused rfl
  | text content => exact .answered rfl

include reached reached'

/-- Two objects that stand for each other are both classes, or both refused as none. -/
theorem classes (sends : f.Sends id id') :
    (∃ record record', image.heap.get? id = some (.classRecord record) ∧
      other.heap.get? id' = some (.classRecord record') ∧ record.Alike f record') ∨
    ∃ fault fault', fault.SameKind fault' ∧ image.heap.findClass id = .error fault ∧
      other.heap.findClass id' = .error fault' := by
  obtain ⟨object, object', stored, stored', alike⟩ := resembles.heap.object sends
  have classes := alike.classRecord?
  cases isClass : object.classRecord? with
  | some record =>
      obtain ⟨record', isClass', records⟩ := exists_of_rel classes isClass
      obtain rfl := HeapObject.eq_of_classRecord? isClass
      obtain rfl := HeapObject.eq_of_classRecord? isClass'
      exact .inl ⟨record, record', stored, stored', records⟩
  | none =>
      have isClass' := eq_none_of_rel classes isClass
      have shown := Heap.findClass_of_not_class (fun _ => reached.displayName_eq) stored isClass
      have shown' := Heap.findClass_of_not_class (fun _ => reached'.displayName_eq) stored' isClass'
      refine .inr ⟨_, _, ?_, shown, shown'⟩
      rfl

theorem findClass (sends : f.Sends id id') :
    Answered (ClassRecord.Alike f) (image.heap.findClass id) (other.heap.findClass id') := by
  rcases resembles.classes reached reached' sends with
    ⟨record, record', stored, stored', alike⟩ | ⟨fault, fault', same, refused, refused'⟩
  · rw [Heap.findClass_eq_ok_iff.mpr stored, Heap.findClass_eq_ok_iff.mpr stored']
    exact .answered alike
  · rw [refused, refused']
    exact .refused same

theorem className (sends : f.Sends id id') :
    Answered Eq (image.heap.className id) (other.heap.className id') := by
  refine (resembles.findClass reached reached' sends).bind fun {record record'} alike => ?_
  cases given : record.name with
  | none =>
      rw [eq_none_of_rel alike.name given]
      exact .answered rfl
  | some name =>
      obtain ⟨name', given', sends'⟩ := exists_of_rel alike.name given
      rw [given']
      exact (resembles.findText sends').map fun same => congrArg some same

/-- The chain of an initialized class corresponds to that of the class that stands for it, and an
uninitialized one stands alone. -/
theorem ancestors (sends : f.Sends id id') :
    Answered (List.Forall₂ f.Sends) (image.heap.ancestors id) (other.heap.ancestors id') := by
  rcases resembles.classes reached reached' sends with
    ⟨record, record', stored, stored', alike⟩ | ⟨fault, fault', same, refused, refused'⟩
  · cases started : record.initialized with
    | true =>
        obtain ⟨chain, lineage⟩ := reached.wellFormed.exists_lineage ⟨_, stored, started⟩
        obtain ⟨chain', lineage', chains⟩ := lineage.alike resembles.heap resembles.root sends
        rw [lineage.ancestors, lineage'.ancestors]
        exact .answered chains
    | false =>
        rw [reached.wellFormed.ancestors_of_raw stored started,
          reached'.wellFormed.ancestors_of_raw stored' (alike.initialized.symm.trans started)]
        exact .answered (.cons sends .nil)
  · rw [Heap.ancestors_of_error refused, Heap.ancestors_of_error refused']
    exact .refused same

theorem dispatchChain (sends : f.Sends id id') :
    Answered (List.Forall₂ f.Sends) (image.heap.dispatchChain id)
      (other.heap.dispatchChain id') := by
  refine (resembles.findHeader sends).bind fun {header header'} alike => ?_
  exact resembles.ancestors reached reached' (Renaming.sends_getD alike.singleton alike.owner)

end Image.Resembles

namespace Session

/-- The questions whose answers tell nothing about slots, marks or the texts in which objects
without a name are displayed. -/
def Inspection.IsStructural : Inspection → Prop
  | .isMarked | .references | .displayName | .backtraceName | .ownerDisplayName => False
  | _ => True

/-- Two answers agree, up to the names of objects. -/
inductive Value.Alike (f : Renaming) : Value → Value → Prop
  | nothing : Alike f .nothing .nothing
  | flag (value : Bool) : Alike f (.flag value) (.flag value)
  | id {id id' : ObjectId} : f.Sends id id' → Alike f (.id id) (.id id')
  | ids {ids ids' : List ObjectId} : List.Forall₂ f.Sends ids ids' → Alike f (.ids ids) (.ids ids')
  | text (content : String) : Alike f (.text content) (.text content)
  | tag (tag : TypeTag) : Alike f (.tag tag) (.tag tag)
  | header {header header' : Header} : header.Alike f header' →
      Alike f (.header header) (.header header')
  | classRecord {record record' : ClassRecord} : record.Alike f record' →
      Alike f (.classRecord record) (.classRecord record')
  | object {object object' : HeapObject} : object.Alike f object' →
      Alike f (.object object) (.object object')

namespace Value.Alike

variable {f g : Renaming}

theorem mono {value value' : Value} (alike : value.Alike f value') (keeps : f.Keeps g) :
    value.Alike g value' := by
  cases alike with
  | nothing => exact .nothing
  | flag value => exact .flag value
  | id sends => exact .id (keeps _ _ sends)
  | ids chains => exact .ids (chains.imp keeps)
  | text content => exact .text content
  | tag tag => exact .tag tag
  | header alike => exact .header (alike.mono keeps)
  | classRecord alike => exact .classRecord (alike.mono keeps)
  | object alike => exact .object (alike.mono keeps)

theorem ofId? {id id' : Option ObjectId} (sends : f.SendsMaybe id id') :
    (Value.ofId? id).Alike f (Value.ofId? id') := by
  cases sends with
  | some sends => exact .id sends
  | none => exact .nothing

theorem ofText? (content : Option String) :
    (Value.ofText? content).Alike f (Value.ofText? content) := by
  cases content with
  | some content => exact .text content
  | none => exact .nothing

end Value.Alike

end Session

namespace Image.Resembles

variable [ReentrantMutex] {f : Renaming} {image other : Image} {settings settings' : Settings}
  {calls calls' : List (Call ObjectId)} {id id' : ObjectId}

/-- Structural questions about objects that stand for each other are answered alike. -/
theorem answer (resembles : Image.Resembles f image other) (reached : Reached settings calls image)
    (reached' : Reached settings' calls' other) {question : Inspection}
    (structural : question.IsStructural) (sends : f.Sends id id') :
    Answered (Value.Alike f) (question.answer image.heap id) (question.answer other.heap id') := by
  have headers := resembles.findHeader sends
  have classes := resembles.findClass reached reached' sends
  have live := resembles.heap.contains sends
  cases question with
  | contains =>
      simp only [Inspection.answer, live.1, live.2]
      exact .answered (.flag true)
  | isClass =>
      have same : image.heap.isClass id = other.heap.isClass id' :=
        isSome_of_rel (resembles.heap.classRecord? sends)
      simp only [Inspection.answer, same]
      exact .answered (.flag _)
  | object => exact (resembles.find sends).map fun alike => .object alike
  | header => exact headers.map fun alike => .header alike
  | classRecord => exact classes.map fun alike => .classRecord alike
  | text => exact (resembles.findText sends).map fun same => same ▸ .text _
  | className =>
      exact (resembles.className reached reached' sends).map fun same => same ▸ .ofText? _
  | owner => exact headers.map fun alike => .id alike.owner
  | tag => exact headers.map fun alike => alike.tag ▸ .tag _
  | superclass => exact classes.map fun alike => .ofId? alike.superclass
  | isSingleton => exact classes.map fun alike => alike.isSingleton ▸ .flag _
  | singleton => exact headers.map fun alike => .ofId? alike.singleton
  | ancestors => exact (resembles.ancestors reached reached' sends).map fun chains => .ids chains
  | dispatchChain =>
      exact (resembles.dispatchChain reached reached' sends).map fun chains => .ids chains
  | _ => cases structural

end Image.Resembles

end Metamodel
