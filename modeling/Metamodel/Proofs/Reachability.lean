import Metamodel.Proofs.Beginning
import Metamodel.Proofs.Calls

/-!
# Reachable images

The images that any number of calls lead to, from a start with any settings. The bodies of
declarations need no place of their own here: what a body does is a row of calls after the
declaration. A property of heaps that the first heap has and every edit keeps holds in every
reachable image.
-/

namespace Metamodel

open Session

/-- The images after a row of calls, whatever the calls were answered. The lock may be held for
the time of some of the calls, and the journal may be read out between them. -/
inductive Reached [ReentrantMutex] (settings : Settings) : List (Call ObjectId) → Image → Prop
  | start {image : Image} : Image.start settings = .ok image → Reached settings [] image
  | answered {calls : List (Call ObjectId)} {call : Call ObjectId} {image after : Image}
      {value : Value} : Reached settings calls image → call.perform image = .ok value after →
      Reached settings (calls ++ [call]) after
  | refused {calls : List (Call ObjectId)} {call : Call ObjectId} {image after : Image}
      {fault : Fault} : Reached settings calls image → call.perform image = .error fault after →
      Reached settings (calls ++ [call]) after
  | aside {calls : List (Call ObjectId)} {image : Image} (lock : StructureLock)
      (journal : Array Event) : Reached settings calls image →
      Reached settings calls { image with lock, journal }

/-- The image after some calls, whatever they are answered. -/
def Image.afterCalls [ReentrantMutex] (image : Image) : List (Call ObjectId) → Image
  | [] => image
  | call :: rest =>
      match call.perform image with
      | .ok _ after => after.afterCalls rest
      | .error _ after => after.afterCalls rest

/-- Every row of calls leads to a reachable image. -/
theorem Reached.afterCalls [ReentrantMutex] {settings : Settings} {calls : List (Call ObjectId)}
    {image : Image} (reached : Reached settings calls image) (more : List (Call ObjectId)) :
    Reached settings (calls ++ more) (image.afterCalls more) := by
  induction more generalizing calls image with
  | nil => rwa [List.append_nil]
  | cons call rest ih =>
      rw [List.append_cons, Image.afterCalls]
      cases performed : call.perform image with
      | ok value after => exact ih (reached.answered performed)
      | error fault after => exact ih (reached.refused performed)

theorem Reached.first [ReentrantMutex] (settings : Settings) :
    Reached settings [] (.first settings) :=
  .start (Image.start_eq settings)

/-- So does every row of calls from the beginning. -/
theorem Reached.afterFirst [ReentrantMutex] (settings : Settings) (calls : List (Call ObjectId)) :
    Reached settings calls ((Image.first settings).afterCalls calls) :=
  (Reached.first settings).afterCalls calls

namespace Heap

/-- A property that every edit of a well-formed heap keeps. -/
def KeptByEdits (property : Builtins → Heap → Prop) : Prop :=
  ∀ builtins before after, before.WellFormed builtins → Edit builtins before after →
    property builtins before → property builtins after

theorem KeptByEdits.edits {property : Builtins → Heap → Prop} (kept : KeptByEdits property)
    {builtins : Builtins} {before after : Heap} (wf : before.WellFormed builtins)
    (edits : Edits builtins before after) (holds : property builtins before) :
    property builtins after := by
  induction edits with
  | refl => exact holds
  | tail earlier edit ih => exact kept _ _ _ (Edits.wellFormed earlier wf) edit ih

end Heap

namespace Reached

variable [ReentrantMutex] {settings : Settings} {calls : List (Call ObjectId)} {image : Image}

/-- Every reachable heap is well-formed, and has what the first heap has and edits keep. A
property of runs without allocations of classes need not hold of the classes they add. -/
theorem induct (property : Builtins → Heap → Prop) (reached : Reached settings calls image)
    (first : property (Image.first settings).builtins (Image.first settings).heap)
    (kept : Heap.KeptByEdits property)
    (allocated : .allocateClass ∈ calls → ∀ builtins heap, heap.WellFormed builtins →
      property builtins heap → property builtins (heap.addClass builtins.anchor)) :
    image.heap.WellFormed image.builtins ∧ property image.builtins image.heap := by
  induction reached with
  | start started =>
      rw [Image.start_eq] at started
      cases started
      exact ⟨Heap.wellFormed_first settings, first⟩
  | @answered calls call image after value _ done ih =>
      have earlier := ih fun mem => allocated (List.mem_append_left _ mem)
      obtain ⟨same, edits | ⟨rfl, added⟩⟩ := Call.edits_of_ok earlier.1 done
      · rw [same]
        exact ⟨Heap.Edits.wellFormed edits earlier.1, kept.edits earlier.1 edits earlier.2⟩
      · rw [same, added]
        exact ⟨earlier.1.addClass, allocated (by simp) _ _ earlier.1 earlier.2⟩
  | refused _ ended ih =>
      have earlier := ih fun mem => allocated (List.mem_append_left _ mem)
      rw [Call.eq_of_error earlier.1 ended]
      exact earlier
  | aside lock journal _ ih => exact ih allocated

/-- Every reachable heap is well-formed. -/
theorem wellFormed (reached : Reached settings calls image) :
    image.heap.WellFormed image.builtins := by
  have both := reached.induct (fun _ _ => True) trivial (fun _ _ _ _ _ _ => trivial)
    (fun _ _ _ _ _ => trivial)
  exact both.1

end Reached

end Metamodel
