import Metamodel.CountingMutex
import Metamodel.Proofs.Mirroring
import Metamodel.Proofs.Sessions

/-!
# Reference integrity

Whatever is collected and however stale the ids are that calls are made with, no stored reference
ever dangles or leads to an object of another kind. So a call can report an object as unknown only
if the call is about it.
-/

namespace Metamodel

open Session

/-- A script that is ended by an unknown object has made its last call about it, be it in a
body. -/
theorem Session.Script.exists_call_of_unknownObject [ReentrantMutex] {settings : Settings}
    {calls : List (Call ObjectId)} {script : Script} {ends : Bool} {state : State} {id : ObjectId}
    (reached : Reached settings calls state.image)
    (ended : (script.run ends state).ending = some (.unknownObject id)) :
    ∃ call, (script.calls ends state).getLast? = some call ∧ id ∈ call.arguments := by
  obtain ⟨earlier, call, before, after, split, reached', refused⟩ :=
    (script.follows_run ends state reached).last _ ended
  refine ⟨call, ?_, Call.mem_arguments_of_error reached'.wellFormed refused⟩
  rw [split, List.getLast?_append]
  rfl

/-- In every reachable image every stored reference names a live object of the right kind: an
owner is an initialized class, which for an instance is no singleton class; a superclass is an
initialized class; a singleton class is one; a singleton class is attached to a class or an
instance; a name is a text and not that of another class. The built-in classes are classes, and
pinned objects are live. So no call reports an object as unknown but one that it is about, a body
is not ended by an unknown object but one that its last call is about, and every object that is
there is displayed without an unknown one. -/
theorem Reached.integrity [ReentrantMutex] {settings : Settings} {calls : List (Call ObjectId)}
    {image : Image} (reached : Reached settings calls image) :
    (∀ id object header, image.heap.get? id = some object → object.header? = some header →
      image.heap.Has header.owner HeapObject.IsInitialized ∧
        ∀ singleton, header.singleton = some singleton → ∃ mirror,
          image.heap.get? singleton = some (.classRecord mirror) ∧ mirror.isSingleton) ∧
      (∀ id header, image.heap.get? id = some (.plain header) → ∃ owner,
        image.heap.get? header.owner = some (.classRecord owner) ∧ owner.initialized ∧
          owner.isSingleton = false) ∧
      (∀ id record, image.heap.get? id = some (.classRecord record) →
        (∀ superclass, record.superclass = some superclass →
          image.heap.Has superclass HeapObject.IsInitialized) ∧
        (∀ object, record.attached = some object → ∃ stored header,
          image.heap.get? object = some stored ∧ stored.header? = some header) ∧
        (∀ name, record.name = some name → ∃ content,
          image.heap.get? name = some (.text content))) ∧
      (∀ a b first second name, image.heap.get? a = some (.classRecord first) →
        image.heap.get? b = some (.classRecord second) → first.name = some name →
        second.name = some name → a = b) ∧
      (∀ id ∈ image.builtins.toList, ∃ record,
        image.heap.get? id = some (.classRecord record)) ∧
      (∀ id, 0 < image.heap.pinCount id → image.heap.contains id) ∧
      (∀ call id after, Call.perform call image = .error (.unknownObject id) after →
        id ∈ call.arguments) ∧
      (∀ script ends bindings id,
        (Script.run ends script ⟨image, bindings⟩).ending = some (.unknownObject id) →
        ∃ call, (script.calls ends ⟨image, bindings⟩).getLast? = some call ∧
          id ∈ call.arguments) ∧
      ∀ id unknown, image.heap.contains id →
        image.heap.displayName id ≠ .error (.unknownObject unknown) := by
  have wf := reached.wellFormed
  refine ⟨?_, ?_, ?_, ?_, ?_, ?_, ?_, ?_, ?_⟩
  · intro id object header stored isHeader
    refine ⟨((wf.sound stored).header header isHeader).owner, ?_⟩
    intro singleton given
    obtain ⟨mirror, _, isMirror, isSingleton, _⟩ := wf.exists_mirror stored isHeader given
    exact ⟨mirror, isMirror, isSingleton.2.1⟩
  · intro id header stored
    obtain ⟨object, found, ordinary⟩ := (wf.sound stored).plain header rfl
    cases object with
    | classRecord owner => exact ⟨owner, found, ordinary⟩
    | plain header => cases ordinary
    | text content => cases ordinary
  · intro id record stored
    have sound := (wf.sound stored).classRecord record rfl
    refine ⟨?_, ?_, ?_⟩
    · intro superclass next
      obtain ⟨chain, lineage⟩ := wf.exists_lineage_above stored next
      exact lineage.isInitialized
    · intro object given
      obtain ⟨attached, found, header, isHeader, _⟩ := sound.attached object given
      exact ⟨attached, header, found, isHeader⟩
    · intro name given
      exact (sound.name name given).exists_text
  · intro a b first second name ha hb na nb
    exact wf.names ha hb na nb
  · intro id mem
    have ordinary := wf.builtins id mem
    obtain ⟨record, stored, _⟩ := ordinary.isInitialized.exists_classRecord
    exact ⟨record, stored⟩
  · intro id pinned
    exact wf.pinned pinned
  · intro call id after refused
    exact Call.mem_arguments_of_error wf refused
  · intro script ends bindings id ended
    exact Script.exists_call_of_unknownObject reached ended
  · intro id unknown live refused
    have none := wf.blames_displayName_of_contains live unknown refused
    cases none

/-- The case of one instance, in slot 11, of the built-in class in slot 5, and of an id without an
object. -/
theorem Reached.integrity_newObject :
    ∃ image, Reached .standard [.newObject 5] image ∧
      (∃ owner, image.heap.get? 5 = some (.classRecord owner) ∧ owner.initialized ∧
        owner.isSingleton = false) ∧
      Call.perform (.newObject 99) image = .error (.unknownObject 99) image ∧
      99 ∈ Call.arguments (.newObject 99) := by
  have performed : Call.perform (.newObject 5) (.first .standard) =
      .ok (.id 11) ((Image.first .standard).extend
        ((Image.first .standard).heap.allocate (.plain (.fresh .object 5))).2 []) := rfl
  have refused : Call.perform (.newObject 99) ((Image.first .standard).extend
      ((Image.first .standard).heap.allocate (.plain (.fresh .object 5))).2 []) =
      .error (.unknownObject 99) ((Image.first .standard).extend
        ((Image.first .standard).heap.allocate (.plain (.fresh .object 5))).2 []) := rfl
  have reached := Reached.answered (.first .standard) performed
  have added := (Heap.tidy_first .standard).get?_allocate (.plain (.fresh .object 5)) 11
  obtain ⟨_, owners, _, _, _, _, blames, _⟩ := Reached.integrity reached
  exact ⟨_, reached, owners 11 _ (added.trans (if_pos rfl)), refused, blames _ _ _ refused⟩

end Metamodel
