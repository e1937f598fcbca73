import Metamodel.Image.Genesis
import Metamodel.Proofs.Additions
import Metamodel.Proofs.Execution

/-!
# The beginning

The image that every run starts from, object by object. Only its settings depend on the settings
given. Its heap is well-formed; the steps that lead to it are not, for the class of all classes
gets its superclass last.
-/

namespace Metamodel

/-- One of the classes that are made by hand or derived from those. -/
def ClassRecord.founder (singleton : Option ObjectId) (name : ObjectId)
    (superclass : Option ObjectId) (tag : TypeTag) : ClassRecord :=
  { fresh 0 with
    singleton := singleton
    name := some name
    superclass := superclass
    instanceTag := tag
    initialized := true }

/-- The first objects, in the order of their slots. -/
def Heap.firstObjects (superclass : Option ObjectId) : List HeapObject :=
  [.classRecord (.founder none 1 superclass .classTag), .text "Class", .text "BasicObject",
    .classRecord (.founder (some 4) 2 none .object),
    .classRecord (.singletonOf 3 0 0 .classTag),
    .classRecord (.founder (some 6) 7 (some 3) .object),
    .classRecord (.singletonOf 5 4 4 .classTag), .text "Object",
    .classRecord (.founder (some 9) 10 (some 5) .moduleTag),
    .classRecord (.singletonOf 8 6 6 .classTag), .text "Module"]

/-- What is reported while they are made. -/
def Image.firstEvents : List Event :=
  [.anchorMade 0, .rootMade 3 4, .singletonDerived 5 6, .subclassCreated 3 5 "Object",
    .singletonDerived 8 9, .subclassCreated 5 8 "Module", .hierarchyReady 0 3 5 8]

/-- An image with some of the first objects. -/
def Image.early [ReentrantMutex] (settings : Settings) (builtins : Builtins)
    (superclass : Option ObjectId) (objects events : Nat) : Image where
  heap :=
    { Heap.empty settings with
      slots := (((Heap.firstObjects superclass).take objects).map some).toArray
      allocated := objects }
  builtins := builtins
  settings := settings
  lock := .free
  journal := (firstEvents.take events).toArray

/-- The image with all of them. -/
def Image.first [ReentrantMutex] (settings : Settings) : Image :=
  .early settings ⟨0, 3, 5, 8⟩ (some 8) 11 7

namespace ImageM

variable [ReentrantMutex] (settings : Settings)

theorem makeAnchor_apply : makeAnchor (.blank settings) =
    .ok 0 (.early settings ⟨0, 0, 0, 0⟩ none 2 1) := rfl

theorem makeRoot_apply : makeRoot 0 (.early settings ⟨0, 0, 0, 0⟩ none 2 1) =
    .ok 3 (.early settings ⟨0, 0, 0, 0⟩ none 5 2) := rfl

/-- The lock is taken for a class, for linking it and for linking its singleton class. -/
theorem release_three (lock : StructureLock) :
    lock.acquire.acquire.acquire.release.release.release = lock := by
  simp only [StructureLock.release_acquire]

theorem subclass_object_apply :
    Image.subclass 3 "Object" none (.early settings ⟨0, 3, 3, 3⟩ none 5 2) =
      .ok 5 (.early settings ⟨0, 3, 3, 3⟩ none 8 4) := by
  let after (lock : StructureLock) : Image :=
    { Image.early settings ⟨0, 3, 3, 3⟩ none 8 4 with lock }
  exact congrArg (fun lock => EStateM.Result.ok 5 (after lock)) (release_three .free)

theorem subclass_module_apply :
    Image.subclass 5 "Module" (some .moduleTag) (.early settings ⟨0, 3, 3, 3⟩ none 8 4) =
      .ok 8 (.early settings ⟨0, 3, 3, 3⟩ none 11 6) := by
  let after (lock : StructureLock) : Image :=
    { Image.early settings ⟨0, 3, 3, 3⟩ none 11 6 with lock }
  exact congrArg (fun lock => EStateM.Result.ok 8 (after lock)) (release_three .free)

theorem placeAnchor_apply :
    locked (editClass 0 fun record => { record with superclass := some 8 })
        (.early settings ⟨0, 3, 5, 8⟩ none 11 6) =
      .ok () (.early settings ⟨0, 3, 5, 8⟩ (some 8) 11 6) := by
  refine locked_eq_ok ?_
  rfl

theorem setBuiltins_early (before builtins : Builtins) (objects events : Nat) :
    setBuiltins builtins (.early settings before none objects events) =
      .ok () (.early settings builtins none objects events) := rfl

theorem genesis_apply : genesis (.blank settings) = .ok () (.first settings) := by
  unfold genesis
  refine bind_of_ok (makeAnchor_apply settings) ?_
  refine bind_of_ok (makeRoot_apply settings) ?_
  refine bind_of_ok (setBuiltins_early settings _ _ _ _) ?_
  refine bind_of_ok (subclass_object_apply settings) ?_
  refine bind_of_ok (subclass_module_apply settings) ?_
  refine bind_of_ok (setBuiltins_early settings _ _ _ _) ?_
  exact bind_of_ok (placeAnchor_apply settings) rfl

end ImageM

namespace Heap

variable {settings : Settings} {id : ObjectId}

theorem get?_first [ReentrantMutex] (settings : Settings) (id : ObjectId) :
    (Image.first settings).heap.get? id = (firstObjects (some 8))[id]? := by
  have row : (Image.first settings).heap.get? id =
      (((firstObjects (some 8)).map some).toArray[id]?).join := rfl
  rw [row]
  cases h : (firstObjects (some 8))[id]? <;> simp [h]

theorem mem_firstObjects [ReentrantMutex] {object : HeapObject}
    (stored : (Image.first settings).heap.get? id = some object) :
    (object, id) ∈ (firstObjects (some 8)).zipIdx := by
  apply List.mem_zipIdx_iff_getElem?.mpr
  rw [← get?_first settings, stored]

/-- The classes among the first objects, with their slots. -/
inductive FirstClass : ObjectId → ClassRecord → Prop
  | anchor : FirstClass 0 (.founder none 1 (some 8) .classTag)
  | root : FirstClass 3 (.founder (some 4) 2 none .object)
  | rootMirror : FirstClass 4 (.singletonOf 3 0 0 .classTag)
  | objectClass : FirstClass 5 (.founder (some 6) 7 (some 3) .object)
  | objectMirror : FirstClass 6 (.singletonOf 5 4 4 .classTag)
  | moduleClass : FirstClass 8 (.founder (some 9) 10 (some 5) .moduleTag)
  | moduleMirror : FirstClass 9 (.singletonOf 8 6 6 .classTag)

theorem firstClass_of_get? [ReentrantMutex] {record : ClassRecord}
    (stored : (Image.first settings).heap.get? id = some (.classRecord record)) :
    FirstClass id record := by
  have mem := mem_firstObjects stored
  simp only [firstObjects, List.zipIdx_cons, List.zipIdx_nil, List.mem_cons, Prod.mk.injEq,
    List.not_mem_nil, or_false, HeapObject.classRecord.injEq, reduceCtorEq, false_and,
    false_or] at mem
  rcases mem with ⟨rfl, rfl⟩ | ⟨rfl, rfl⟩ | ⟨rfl, rfl⟩ | ⟨rfl, rfl⟩ | ⟨rfl, rfl⟩ | ⟨rfl, rfl⟩ |
    ⟨rfl, rfl⟩
  all_goals constructor

/-- All slots are in use. -/
theorem tidy_first [ReentrantMutex] (settings : Settings) : (Image.first settings).heap.Tidy where
  mem_vacant := by
    intro id
    constructor
    · rintro ⟨⟩
    · intro ⟨below, empty⟩
      rw [get?_first, List.getElem?_eq_none_iff] at empty
      exact absurd below (Nat.not_lt.mpr empty)
  nodup := List.nodup_nil

/-- The text of the name of a class. -/
def nameOf (object : HeapObject) : Option ObjectId :=
  object.classRecord?.bind ClassRecord.name

theorem nameOf_firstObjects : ∀ first ∈ (firstObjects (some 8)).zipIdx,
    ∀ second ∈ (firstObjects (some 8)).zipIdx, nameOf first.1 = nameOf second.1 →
      nameOf first.1 ≠ none → first.2 = second.2 := by
  decide

section Founder

variable {heap : Heap} {builtins : Builtins} {singleton superclass : Option ObjectId}
  {name : ObjectId} {tag : TypeTag}

/-- A founder is sound when it is rooted, its name is a text and its singleton class, if it has
one, has its place. -/
theorem sound_founder (isAnchor : builtins.anchor = 0)
    (anchor : heap.Has 0 HeapObject.IsInitialized) (rooted : heap.Rooted builtins.root id)
    (named : heap.Has name HeapObject.IsText)
    (mirrored : ∀ mirror, singleton = some mirror → ∃ above,
      heap.SingletonBelow builtins.anchor
          (.classRecord (.founder singleton name superclass tag)) above ∧
        heap.Has mirror (HeapObject.IsSingletonOf id above)) :
    HeapObject.Sound heap builtins id
      (.classRecord (.founder singleton name superclass tag)) := by
  apply HeapObject.sound_classRecord
  · exact ⟨anchor, mirrored⟩
  · refine ⟨fun _ => rooted, ?_, fun _ => isAnchor.symm, ?_, ?_, rfl, ?_⟩
    · rintro ⟨⟩
    · rintro _ ⟨⟩
      exact named
    · rintro ⟨⟩
    · rintro object ⟨⟩

end Founder

/-- The heap that every run starts from is well-formed. -/
theorem wellFormed_first [ReentrantMutex] (settings : Settings) :
    (Image.first settings).heap.WellFormed (Image.first settings).builtins := by
  let heap := (Image.first settings).heap
  have top : heap.get? 3 = some (.classRecord (.founder (some 4) 2 none .object)) := rfl
  have root : heap.Rooted 3 3 := .root top rfl rfl
  have object : heap.Rooted 3 5 := .under rfl rfl rfl root
  have module_ : heap.Rooted 3 8 := .under rfl rfl rfl object
  have anchor : heap.Rooted 3 0 := .under rfl rfl rfl module_
  have rootMirror : heap.Rooted 3 4 := .under rfl rfl rfl anchor
  have objectMirror : heap.Rooted 3 6 := .under rfl rfl rfl rootMirror
  have started := anchor.isInitialized
  constructor
  · exact tidy_first settings
  · intro id stored found
    have mem := mem_firstObjects found
    simp only [firstObjects, List.zipIdx_cons, List.zipIdx_nil, List.mem_cons, Prod.mk.injEq,
      List.not_mem_nil, or_false] at mem
    rcases mem with ⟨rfl, rfl⟩ | ⟨rfl, rfl⟩ | ⟨rfl, rfl⟩ | ⟨rfl, rfl⟩ | ⟨rfl, rfl⟩ | ⟨rfl, rfl⟩ |
      ⟨rfl, rfl⟩ | ⟨rfl, rfl⟩ | ⟨rfl, rfl⟩ | ⟨rfl, rfl⟩ | ⟨rfl, rfl⟩
    · exact sound_founder rfl started anchor ⟨_, rfl, trivial⟩ (by rintro mirror ⟨⟩)
    · exact HeapObject.sound_of_isText trivial
    · exact HeapObject.sound_of_isText trivial
    · refine sound_founder rfl started root ⟨_, rfl, trivial⟩ ?_
      rintro mirror ⟨⟩
      exact ⟨0, .top rfl, _, rfl, rfl, rfl, rfl, rfl⟩
    · exact HeapObject.sound_singletonOf rfl started anchor ⟨_, rfl, _, rfl, rfl⟩
        (by rintro mirror ⟨⟩)
    · refine sound_founder rfl started object ⟨_, rfl, trivial⟩ ?_
      rintro mirror ⟨⟩
      exact ⟨4, .beside rfl ⟨_, rfl, _, rfl, rfl⟩, _, rfl, rfl, rfl, rfl, rfl⟩
    · exact HeapObject.sound_singletonOf rfl rootMirror.isInitialized rootMirror
        ⟨_, rfl, _, rfl, rfl⟩ (by rintro mirror ⟨⟩)
    · exact HeapObject.sound_of_isText trivial
    · refine sound_founder rfl started module_ ⟨_, rfl, trivial⟩ ?_
      rintro mirror ⟨⟩
      exact ⟨6, .beside rfl ⟨_, rfl, _, rfl, rfl⟩, _, rfl, rfl, rfl, rfl, rfl⟩
    · exact HeapObject.sound_singletonOf rfl objectMirror.isInitialized objectMirror
        ⟨_, rfl, _, rfl, rfl⟩ (by rintro mirror ⟨⟩)
    · exact HeapObject.sound_of_isText trivial
  · intro a b name first second ha hb na nb
    have same : nameOf (.classRecord first) = nameOf (.classRecord second) := na.trans nb.symm
    apply nameOf_firstObjects _ (mem_firstObjects ha) _ (mem_firstObjects hb) same
    intro nameless
    rw [nameOf, HeapObject.classRecord?, Option.bind_some, na] at nameless
    cases nameless
  · intro id mem
    have builtin : id = 0 ∨ id = 3 ∨ id = 5 ∨ id = 8 := by
      simpa [Builtins.toList, Image.first, Image.early] using mem
    rcases builtin with rfl | rfl | rfl | rfl
    all_goals exact ⟨_, rfl, rfl, rfl⟩
  · intro id protected_
    exact absurd protected_ (Nat.not_lt_zero _)

end Heap

/-- Every start succeeds. -/
theorem Image.start_eq [ReentrantMutex] (settings : Settings) : start settings = .ok
    (first settings) := by
  unfold start
  simp only [ImageM.genesis_apply]

end Metamodel
