import Metamodel.CountingMutex
import Metamodel.Proofs.NameForms
import Metamodel.Proofs.Pinning

/-!
# Late naming

What shows when a class is given its name late. The display name of an object is found by going
from singleton classes to their objects and from instances and nameless classes to their owners. A
new name shows in the names that are found by way of the class, in place of the name that the class
had by itself, and in no others.
-/

namespace Metamodel

open Session

/-- An object is named after another one, by the name of that between two texts: a singleton class
after its object, a class without a name and an instance after their owners. -/
inductive HeapObject.NamedAfter (id : ObjectId) :
    HeapObject → ObjectId → String → String → Prop
  | singleton {record : ClassRecord} {object : ObjectId} : record.isSingleton →
      record.attached = some object →
      NamedAfter id (.classRecord record) object "#<Class:" ">"
  | anonymous {record : ClassRecord} : record.isSingleton = false → record.name = none →
      NamedAfter id (.classRecord record) record.owner "#<" (":" ++ id.text ++ ">")
  | plain (header : Header) :
      NamedAfter id (.plain header) header.owner "#<" (":" ++ id.text ++ ">")

theorem HeapObject.NamedAfter.nameForm {id inner : ObjectId} {object : HeapObject}
    {front back : String} (after : object.NamedAfter id inner front back) :
    object.nameForm id = .around front inner back := by
  cases after with
  | singleton flagged attached => exact ClassRecord.nameForm_of_attached flagged attached id
  | anonymous unflagged nameless => exact ClassRecord.nameForm_of_anonymous unflagged nameless id
  | plain header => rfl

namespace Heap

/-- The name of an object is found by way of the target, with what comes before and after the name
of the target. -/
inductive Resolves (heap : Heap) (target : ObjectId) : ObjectId → String → String → Prop
  | here : Resolves heap target target "" ""
  | step {id inner : ObjectId} {object : HeapObject} {front before after back : String} :
      heap.get? id = some object → object.NamedAfter id inner front back →
      Resolves heap target inner before after →
      Resolves heap target id (front ++ before) (after ++ back)

variable {heap : Heap} {builtins : Builtins} {target id : ObjectId} {record : ClassRecord}
  {own name shown front back : String} {path : List ObjectId}

/-- What is named by way of the target has the name of the target within its own. -/
theorem Resolves.displays (resolves : heap.Resolves target id front back)
    (displays : heap.Displays target own path) :
    ∃ path', heap.Displays id (front ++ own ++ back) path' ∧ path.length ≤ path'.length := by
  induction resolves with
  | here =>
      refine ⟨path, ?_, Nat.le_refl _⟩
      rwa [String.empty_append, String.append_empty]
  | @step id inner object front before after back stored next _ ih =>
      obtain ⟨path', inner, longer⟩ := ih
      refine ⟨id :: path', ?_, Nat.le_succ_of_le longer⟩
      have outer := Displays.around stored next.nameForm inner
      simpa only [String.append_assoc] using outer

/-- No name is found by way of itself. -/
theorem Resolves.ne_of_step {inner : ObjectId} {object : HeapObject} {before after : String}
    (displays : heap.Displays target own path) (stored : heap.get? id = some object)
    (next : object.NamedAfter id inner front back)
    (resolves : heap.Resolves target inner before after) : id ≠ target := by
  rintro rfl
  obtain ⟨path', inner, longer⟩ := resolves.displays displays
  have same := (displays.unique (.around stored next.nameForm inner)).2
  rw [same, List.length_cons] at longer
  omega

/-- How the name of a stored object is formed, read back. -/
theorem WellFormed.namedAfter (wf : heap.WellFormed builtins) {object : HeapObject}
    {inner : ObjectId} (stored : heap.get? id = some object)
    (form : object.nameForm id = .around front inner back) :
    object.NamedAfter id inner front back := by
  cases object with
  | text content => cases form
  | plain header =>
      cases form
      exact .plain header
  | classRecord record =>
      change record.nameForm id = _ at form
      cases flagged : record.isSingleton with
      | true =>
          obtain ⟨object, attached, _⟩ := wf.exists_attached stored flagged
          rw [ClassRecord.nameForm_of_attached flagged attached] at form
          cases form
          exact .singleton flagged attached
      | false =>
          cases given : record.name with
          | some text =>
              rw [ClassRecord.nameForm_of_name flagged given] at form
              cases form
          | none =>
              rw [ClassRecord.nameForm_of_anonymous flagged given] at form
              cases form
              exact .anonymous flagged given

/-- What is visited on the way to a name is what the name is found by way of. -/
theorem Displays.exists_resolves (displays : heap.Displays id shown path)
    (wf : heap.WellFormed builtins) (mem : target ∈ path) :
    ∃ front back, heap.Resolves target id front back := by
  induction displays with
  | literal | stored =>
      obtain rfl := List.mem_singleton.mp mem
      exact ⟨_, _, .here⟩
  | around stored form _ ih =>
      rcases List.mem_cons.mp mem with rfl | mem
      · exact ⟨_, _, .here⟩
      · obtain ⟨before, after, resolves⟩ := ih mem
        exact ⟨_, _, .step stored (wf.namedAfter stored form) resolves⟩

section AssignName

variable (tidy : heap.Tidy) (isTarget : heap.get? target = some (.classRecord record))

include tidy isTarget

/-- A class that is given a name is the only object that changes. -/
theorem get?_assignName_of_ne {object : HeapObject} (ne : id ≠ target)
    (stored : heap.get? id = some object) :
    (heap.assignName target name).get? id = some object := by
  rw [get?_assignName tidy isTarget, if_neg ne, if_neg (tidy.ne_nextId stored), stored]

/-- The names of other objects are found on the same ways as before. -/
theorem Resolves.assignName (resolves : heap.Resolves target id front back)
    (displays : heap.Displays target own path) :
    (heap.assignName target name).Resolves target id front back := by
  induction resolves with
  | here => exact .here
  | step stored next resolves ih =>
      have ne := resolves.ne_of_step displays stored next
      exact .step (get?_assignName_of_ne tidy isTarget ne stored) next ih

/-- A name that is found without the class stays. -/
theorem Displays.assignName (displays : heap.Displays id shown path) (apart : target ∉ path) :
    (heap.assignName target name).Displays id shown path := by
  induction displays with
  | literal stored form =>
      have ne := Ne.symm (List.ne_of_not_mem_cons apart)
      exact .literal (get?_assignName_of_ne tidy isTarget ne stored) form
  | @stored id text object shown stored form content =>
      have ne := Ne.symm (List.ne_of_not_mem_cons apart)
      have isText : text ≠ target := by
        rintro rfl
        rw [isTarget] at content
        cases content
      exact .stored (get?_assignName_of_ne tidy isTarget ne stored) form
        (get?_assignName_of_ne tidy isTarget isText content)
  | around stored form _ ih =>
      obtain ⟨ne, rest⟩ := List.ne_and_not_mem_of_not_mem_cons apart
      exact .around (get?_assignName_of_ne tidy isTarget (Ne.symm ne) stored) form (ih rest)

/-- The class is displayed by its new name. -/
theorem displays_assignName (unflagged : record.isSingleton = false) :
    (heap.assignName target name).Displays target name [target] := by
  have ne := tidy.ne_nextId isTarget
  refine .stored ((get?_assignName tidy isTarget name target).trans (if_pos rfl)) ?_
    ((get?_assignName tidy isTarget name heap.nextId).trans ?_)
  · apply ClassRecord.nameForm_of_name
    · exact unflagged
    · rfl
  · rw [if_neg (Ne.symm ne), if_pos rfl]

end AssignName

/-- No singleton class has a name of its own. -/
def SingletonsNameless (heap : Heap) : Prop :=
  ∀ id record, heap.get? id = some (.classRecord record) → record.isSingleton →
    heap.className id = .ok none

theorem WellFormed.singletonsNameless (wf : heap.WellFormed builtins) :
    heap.SingletonsNameless := by
  intro id record stored flagged
  exact className_of_nameless stored (((wf.sound stored).classRecord record rfl).nameless flagged)

end Heap

/-- A class that has been given its name. -/
def HeapObject.IsNamed (object : HeapObject) : Prop :=
  ∃ record, object = .classRecord record ∧ record.isSingleton = false ∧ record.name ≠ none

theorem HeapObject.lasting_isNamed : Lasting IsNamed := by
  rintro _ _ evolves ⟨record, rfl, unflagged, named⟩
  cases evolves with
  | classRecord evolves =>
      obtain ⟨text, given⟩ := Option.ne_none_iff_exists'.mp named
      refine ⟨_, rfl, evolves.isSingleton.trans unflagged, ?_⟩
      rw [evolves.name text given]
      exact nofun

namespace Image

variable [ReentrantMutex] {image : Image} {target : ObjectId} {record : ClassRecord} {name : String}

/-- Naming an ordinary class is not refused. -/
theorem assignName_of_unflagged (tidy : image.heap.Tidy)
    (stored : image.heap.get? target = some (.classRecord record))
    (unflagged : record.isSingleton = false) (name : String) :
    assignName target name image = .ok () (image.extend
      (if record.name = none ∧ ¬ name.isEmpty then image.heap.assignName target name
        else image.heap) []) := by
  have accepted := Heap.accept_eq_ok_iff.mpr
    ⟨stored, ClassRecord.refuseName_eq_none_iff.mpr unflagged⟩
  rw [assignName_apply tidy, image.conclude_of_ok accepted]

/-- A class keeps the name that it has. -/
theorem assignName_of_isNamed (tidy : image.heap.Tidy)
    (has : image.heap.Has target HeapObject.IsNamed) (text : String) :
    assignName target text image = .ok () image := by
  obtain ⟨_, stored, record, rfl, unflagged, named⟩ := has
  rw [assignName_of_unflagged tidy stored unflagged, if_neg fun both => named both.1,
    image.extend_nil]

end Image

/-- A call spares what it leaves. -/
theorem Session.Call.spares_of_contains [ReentrantMutex] {image : Image} {call : Call ObjectId}
    {id : ObjectId} (kept : (image.afterCalls [call]).heap.contains id) : image.Spares call id := by
  intro roots collects
  rw [heap_of_collection collects] at kept
  exact Heap.contains_collect_iff.mp kept

/-- In a reachable image a class without a name, initialized or not, can be given one. What was
displayed by way of the class is displayed by way of the new name from then on, with the same text
before and after, and the display names of all other objects stay. No singleton class has a name of
its own, then or later. As long as the class is there, it keeps the name, and giving it any other
one changes nothing. -/
theorem Reached.late_naming [ReentrantMutex] {settings : Settings} {calls : List (Call ObjectId)}
    {image : Image}
    (reached : Reached settings calls image) {target : ObjectId} {record : ClassRecord}
    (stored : image.heap.get? target = some (.classRecord record))
    (unflagged : record.isSingleton = false) (nameless : record.name = none) {name : String}
    (given : name ≠ "") :
    ∃ after own, Image.assignName target name image = .ok () after ∧
      image.heap.displayName target = .ok own ∧
      (∀ id front back, image.heap.Resolves target id front back →
        image.heap.displayName id = .ok (front ++ own ++ back) ∧
          after.heap.displayName id = .ok (front ++ name ++ back)) ∧
      (∀ id, image.heap.contains id → (¬ ∃ front back, image.heap.Resolves target id front back) →
        ∃ shown, image.heap.displayName id = .ok shown ∧
          after.heap.displayName id = .ok shown) ∧
      image.heap.SingletonsNameless ∧
      ∀ steps later, after.Trail steps later → later.heap.SingletonsNameless ∧
        ((∀ step ∈ steps, (step.1.afterCalls [step.2]).heap.contains target) →
          ∀ text, Image.assignName target text later = .ok () later) := by
  have wf := reached.wellFormed
  have tidy := wf.tidy
  have assigned := Image.assignName_of_unflagged tidy stored unflagged name
  rw [if_pos ⟨nameless, by simpa using given⟩] at assigned
  have reached' := reached.afterCalls [.assignName target name]
  have isAfter : image.afterCalls [.assignName target name] =
      image.extend (image.heap.assignName target name) [] := by
    rw [Image.afterCalls_singleton, Call.perform, ImageM.leaves_map, ImageM.leaves_of_ok assigned]
  rw [isAfter] at reached'
  obtain ⟨own, path, displays⟩ :=
    wf.exists_displays reached.anchorNamed (Heap.contains_iff.mpr ⟨_, stored⟩)
  refine ⟨_, own, assigned, displays.displayName, ?_, ?_, ?_, ?_⟩
  · intro id front back resolves
    obtain ⟨_, shown, _⟩ := resolves.displays displays
    obtain ⟨_, shown', _⟩ := (resolves.assignName tidy stored displays).displays
      (Heap.displays_assignName tidy stored unflagged)
    exact ⟨shown.displayName, shown'.displayName⟩
  · intro id live apart
    obtain ⟨shown, path, displays⟩ := wf.exists_displays reached.anchorNamed live
    have avoids : target ∉ path := fun mem => apart (displays.exists_resolves wf mem)
    exact ⟨shown, displays.displayName, (displays.assignName tidy stored avoids).displayName⟩
  · exact wf.singletonsNameless
  · intro steps later trail
    obtain ⟨_, reachedLater⟩ := trail.reached reached'
    refine ⟨reachedLater.wellFormed.singletonsNameless, fun kept text => ?_⟩
    have named : (image.heap.assignName target name).Has target HeapObject.IsNamed :=
      ⟨_, (Heap.get?_assignName tidy stored name target).trans (if_pos rfl), _, rfl, unflagged,
        Option.some_ne_none _⟩
    have has := trail.keeps reached' (fun step mem => Call.spares_of_contains (kept step mem))
      HeapObject.lasting_isNamed named
    exact Image.assignName_of_isNamed reachedLater.wellFormed.tidy has text

/-- The case of a class without a name, in slot 11, that has an instance with a singleton class of
its own, in slot 14. -/
theorem Reached.late_naming_singletonClass : ∃ image after,
    Reached .standard [.declare (.newClass none), .newObject 11, .singletonClass 13] image ∧
      Image.assignName 11 "A" image = .ok () after ∧
      image.heap.displayName 14 =
        .ok "#<Class:#<#<Class:0x000000000000000b>:0x000000000000000d>>" ∧
      after.heap.displayName 14 = .ok "#<Class:#<A:0x000000000000000d>>" := by
  have reached := Reached.afterFirst .standard
    [.declare (.newClass none), .newObject 11, .singletonClass 13]
  obtain ⟨image, isImage⟩ : ∃ image, image = (Image.first .standard).afterCalls
    [.declare (.newClass none), .newObject 11, .singletonClass 13] := ⟨_, rfl⟩
  let record : ClassRecord :=
    { ClassRecord.fresh 0 with
      singleton := some 12, superclass := some 3, instanceTag := .object, initialized := true }
  let mirror : ClassRecord := { ClassRecord.singletonOf 13 11 0 .object with singleton := some 15 }
  have isClass : image.heap.get? 11 = some (.classRecord record) := by
    rw [isImage]
    decide +kernel
  have isInstance : image.heap.get? 13 = some (.plain ⟨.object, 11, some 14⟩) := by
    rw [isImage]
    decide +kernel
  have isMirror : image.heap.get? 14 = some (.classRecord mirror) := by
    rw [isImage]
    decide +kernel
  obtain ⟨after, own, assigned, shown, reflected, _⟩ :=
    Reached.late_naming (isImage ▸ reached) isClass rfl rfl (show "A" ≠ "" by decide)
  have alone : image.heap.displayName 11 = .ok "#<Class:0x000000000000000b>" := by
    rw [isImage]
    decide +kernel
  rw [alone] at shown
  cases shown
  obtain ⟨old, new⟩ := reflected 14 _ _
    (.step isMirror (.singleton rfl rfl) (.step isInstance (.plain _) .here))
  refine ⟨image, after, isImage ▸ reached, assigned, old.trans ?_, new.trans ?_⟩
  · decide +kernel
  · decide +kernel

end Metamodel
