import Metamodel.CountingMutex
import Metamodel.Proofs.Replay

/-!
# Transparent collections

What is stored in other slots, and what is garbage, makes no difference to structural operations.
A collection only frees slots and keeps every survivor in its own, so an image and what a
collection leaves of it are related by the renaming that keeps the survivors. Whatever is done with
survivors afterwards, and with what comes of them, goes on alike with and without the collection.
-/

namespace Metamodel

open Session

/-- The renaming that keeps the objects of a heap. -/
def Renaming.onObjects (heap : Heap) : Renaming :=
  fun id => if heap.contains id then some id else none

theorem Renaming.sends_onObjects {heap : Heap} {id other : ObjectId} :
    (onObjects heap).Sends id other ↔ heap.contains id ∧ id = other := by
  unfold Sends onObjects
  split
  · next live => simp [live]
  · next dead => simp [dead]

/-- An object whose references are kept is alike itself. -/
theorem HeapObject.Alike.self {f : Renaming} {object : HeapObject}
    (kept : ∀ id, object.RefersTo id → f.Sends id id) : object.Alike f object := by
  have maybe : ∀ field : Option ObjectId, (∀ id, field = some id → object.RefersTo id) →
      f.SendsMaybe field field := by
    intro field refers
    cases field with
    | none => exact .none
    | some id => exact .some (kept id (refers id rfl))
  cases object with
  | classRecord record =>
      refine .classRecord ⟨⟨rfl, kept _ (.inl rfl), ?_⟩, ?_, ?_, ?_, rfl, rfl, rfl⟩
      · exact maybe _ fun id given => .inr (.inl given)
      · exact maybe _ fun id given => .inr (.inr (.inr (.inr given)))
      · exact maybe _ fun id given => .inr (.inr (.inl given))
      · exact maybe _ fun id given => .inr (.inr (.inr (.inl given)))
  | plain header =>
      exact .plain ⟨rfl, kept _ (.inl rfl), maybe _ fun id given => .inr given⟩
  | text content => exact .text content

/-- What is stored in a well-formed heap refers to objects of it. -/
theorem Heap.WellFormed.contains_of_refersTo {heap : Heap} {builtins : Builtins}
    (wf : heap.WellFormed builtins) {id target : ObjectId} {object : HeapObject}
    (stored : heap.get? id = some object) (refers : object.RefersTo target) :
    heap.contains target := by
  have sound := wf.sound stored
  have singleton : ∀ header, object.header? = some header → header.singleton = some target →
      heap.contains target := by
    intro header isHeader given
    obtain ⟨_, _, has⟩ := (sound.header header isHeader).singleton target given
    exact has.contains
  cases object with
  | classRecord record =>
      have parts := sound.classRecord record rfl
      rcases refers with rfl | given | given | given | given
      · exact (sound.header _ rfl).owner.contains
      · exact singleton _ rfl given
      · obtain ⟨chain, lineage⟩ := wf.exists_lineage_above stored given
        exact lineage.isInitialized.contains
      · exact (parts.attached target given).contains
      · exact (parts.name target given).contains
  | plain header =>
      rcases refers with rfl | given
      · exact (sound.header _ rfl).owner.contains
      · exact singleton _ rfl given
  | text content => cases refers

section Kept

variable [ReentrantMutex] {settings : Settings} {calls : List (Call ObjectId)} {image other : Image}

/-- An image is related to another one whose objects it holds in the same slots. -/
theorem Reached.resembles_of_kept (reached : Reached settings calls other)
    (builtins : image.builtins = other.builtins)
    (kept : ∀ id object, other.heap.get? id = some object → image.heap.get? id = some object)
    (pins : image.heap.pins = other.heap.pins) :
    Image.Resembles (.onObjects other.heap) image other := by
  have wf := reached.wellFormed
  have sends : ∀ id ∈ other.builtins.toList, (Renaming.onObjects other.heap).Sends id id :=
    fun id mem => Renaming.sends_onObjects.mpr ⟨(wf.builtins id mem).contains, rfl⟩
  have heap : Heap.Resembles (.onObjects other.heap) image.heap other.heap :=
    { injective := by
        intro id id' target first second
        have sent := (Renaming.sends_onObjects.mp first).2
        exact sent.trans (Renaming.sends_onObjects.mp second).2.symm
      object := by
        intro id id' same
        obtain ⟨live, rfl⟩ := Renaming.sends_onObjects.mp same
        obtain ⟨object, stored⟩ := Heap.contains_iff.mp live
        refine ⟨object, object, kept id object stored, stored, .self fun target refers => ?_⟩
        exact Renaming.sends_onObjects.mpr ⟨wf.contains_of_refersTo stored refers, rfl⟩
      pinCount := by
        intro id id' same
        obtain ⟨_, rfl⟩ := Renaming.sends_onObjects.mp same
        rw [Heap.pinCount, Heap.pinCount, pins] }
  refine ⟨heap, ?_, ?_, ?_, ?_⟩
  all_goals
    rw [builtins]
    exact sends _ (by simp [Builtins.toList])

/-- A collection is related to the image that it is made on. -/
theorem Reached.resembles_collected (reached : Reached settings calls image)
    (roots : List ObjectId) :
    Image.Resembles (.onObjects (image.afterCalls [.collect roots]).heap) image
      (image.afterCalls [.collect roots]) := by
  refine (reached.afterCalls [.collect roots]).resembles_of_kept ?_ ?_ ?_
  · rfl
  · intro id object stored
    rw [Call.heap_of_collection rfl] at stored
    exact (Heap.get?_collect_eq_some_iff.mp stored).2
  · rfl

end Kept

/-- Slots and garbage are of no account. If a renaming relates two reachable images, then a
structural call on the one and the same call on corresponding objects on the other are refused for
faults of one kind, or answered with corresponding values on images that the extended renaming
relates, and so on for scripts of such calls. In particular a renaming relates an image to what a
collection with further roots leaves of it, so a script that uses survivors only goes on alike on
both. -/
theorem Reached.renaming_invariance [ReentrantMutex] {settings settings' : Settings}
    {calls calls' : List (Call ObjectId)} {image other : Image}
    (reached : Reached settings calls image) (reached' : Reached settings' calls' other) :
    (∀ f : Renaming, Image.Resembles f image other →
      (∀ call call', Call.Alike f.Sends call call' →
        Image.Paces f image other (call.perform image) (call'.perform other)) ∧
      ∀ script script' bindings bindings' ends, Script.Alike f script script' →
        Bindings.Alike f bindings bindings' →
        ∃ g, Run.Paces f ⟨image, bindings⟩ ⟨other, bindings'⟩ g
          (script.run ends ⟨image, bindings⟩) (script'.run ends ⟨other, bindings'⟩)) ∧
    ∀ roots,
      let collected := image.afterCalls [.collect roots]
      let f := Renaming.onObjects collected.heap
      Image.Resembles f image collected ∧
        ∀ script bindings ends, Script.Alike f script script → Bindings.Alike f bindings bindings →
          ∃ g, Run.Paces f ⟨image, bindings⟩ ⟨collected, bindings⟩ g
            (script.run ends ⟨image, bindings⟩) (script.run ends ⟨collected, bindings⟩) := by
  constructor
  · intro f resembles
    constructor
    · intro call call' alike
      exact alike.paces resembles reached reached'
    · intro script script' bindings bindings' ends alike bound
      exact alike.paces ends (.refl f) ⟨resembles, bound, ⟨_, _, reached⟩, ⟨_, _, reached'⟩⟩
  · intro roots collected f
    have resembles := reached.resembles_collected roots
    refine ⟨resembles, ?_⟩
    intro script bindings ends alike bound
    have left := reached.afterCalls [.collect roots]
    exact alike.paces ends (.refl f) ⟨resembles, bound, ⟨_, _, reached⟩, ⟨_, _, left⟩⟩

/-- The case of an image with an allocated class, in slot 11, that nothing refers to, and of the
image without it. An instance of the built-in class in slot 5 is placed in slot 12 of the one and
in slot 11 of the other. After a collection it receives a singleton class, like without one. -/
theorem Reached.renaming_invariance_newObject :
    let image := (Image.first .standard).afterCalls [.allocateClass]
    let f := Renaming.onObjects (Image.first .standard).heap
    let collected := image.afterCalls [.collect []]
    let kept := Renaming.onObjects collected.heap
    let script : Script := .call (.newObject (.handle "class")) ⟨some "instance", false⟩
      (.call (.singletonClass (.handle "instance")) ⟨none, false⟩ .done)
    Image.Resembles f image (.first .standard) ∧
      (∃ g after after', Call.perform (.newObject 5) image = .ok (.id 12) after ∧
        Call.perform (.newObject 5) (.first .standard) = .ok (.id 11) after' ∧
        f.Keeps g ∧ g.Sends 12 11 ∧ Image.Resembles g after after') ∧
      ∃ g, Run.Paces kept ⟨image, [("class", 5)]⟩ ⟨collected, [("class", 5)]⟩ g
        (script.run false ⟨image, [("class", 5)]⟩)
        (script.run false ⟨collected, [("class", 5)]⟩) := by
  intro image f collected kept script
  have first := Reached.first .standard
  have reached := first.afterCalls [.allocateClass]
  have related : Image.Resembles f image (.first .standard) :=
    first.resembles_of_kept rfl
      (fun _ _ stored => Heap.get?_addClass_of_some (Heap.tidy_first .standard) _ stored) rfl
  obtain ⟨alike, collections⟩ := Reached.renaming_invariance reached first
  obtain ⟨calls, _⟩ := alike f related
  obtain ⟨kept_related, scripts⟩ := collections []
  refine ⟨related, ?_, ?_⟩
  · have paces := calls (.newObject 5) (.newObject 5) (.newObject related.objectClass)
    have performed : ∃ after, Call.perform (.newObject 5) image = .ok (.id 12) after := ⟨_, rfl⟩
    have performed' : ∃ after, Call.perform (.newObject 5) (.first .standard) =
        .ok (.id 11) after := ⟨_, rfl⟩
    obtain ⟨after, performed⟩ := performed
    obtain ⟨after', performed'⟩ := performed'
    rw [performed, performed'] at paces
    cases paces with
    | @answered g _ _ _ _ step resembles values =>
        cases values with
        | id sends => exact ⟨g, after, after', performed, performed', step.keeps, sends, resembles⟩
  · refine scripts script [("class", 5)] false ?_ ?_
    · exact .call _ (.newObject (.handle _)) (.call _ (.singletonClass (.handle _)) .done)
    · intro name
      by_cases same : name = "class"
      · subst same
        exact .some kept_related.objectClass
      · rw [List.lookup_cons, beq_eq_false_iff_ne.mpr same]
        exact .none

end Metamodel
