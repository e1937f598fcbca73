import Metamodel.Proofs.Blame
import Metamodel.Proofs.Changes
import Metamodel.Proofs.Pairing

/-!
# Display names

Every object of a reachable image has a display name. A name is computed along a path: from a
singleton class to its object, from an instance or an anonymous class to its owner, and on to a
class with a name or a text. The class of all classes always has its name, so every path ends, and
it visits no object twice.
-/

namespace Metamodel

open Session

/-- A class whose name is stored in the given text. -/
def HeapObject.HasName (text : ObjectId) (object : HeapObject) : Prop :=
  ∃ record, object = .classRecord record ∧ record.name = some text

namespace HeapObject

theorem lasting_hasName (text : ObjectId) : Lasting (HasName text) := by
  intro old new evolves named
  obtain ⟨record, rfl, given⟩ := named
  cases evolves with
  | classRecord evolves => exact ⟨_, rfl, evolves.name text given⟩

theorem lasting_eq_text (content : String) : Lasting (· = .text content) := by
  rintro old new evolves rfl
  cases evolves
  rfl

end HeapObject

namespace ClassRecord

variable {record : ClassRecord}

theorem nameForm_of_name {text : ObjectId} (unflagged : record.isSingleton = false)
    (given : record.name = some text) (id : ObjectId) : record.nameForm id = .stored text := by
  have alone : (record.attached.filter fun _ => record.isSingleton) = none := by
    simp [unflagged]
  simp only [nameForm, alone, given]

theorem nameForm_of_anonymous (unflagged : record.isSingleton = false)
    (nameless : record.name = none) (id : ObjectId) :
    record.nameForm id = .ofOwner record.owner id := by
  have alone : (record.attached.filter fun _ => record.isSingleton) = none := by
    simp [unflagged]
  simp only [nameForm, alone, nameless]

theorem nameForm_of_attached {object : ObjectId} (flagged : record.isSingleton)
    (attached : record.attached = some object) (id : ObjectId) :
    record.nameForm id = .around "#<Class:" object ">" := by
  have given : (record.attached.filter fun _ => record.isSingleton) = some object := by
    simp [attached, flagged]
  simp only [nameForm, given]

end ClassRecord

namespace Heap

/-- The display name of an object, with the objects that its computation visits. -/
inductive Displays (heap : Heap) : ObjectId → String → List ObjectId → Prop
  | literal {id : ObjectId} {object : HeapObject} {name : String} : heap.get? id = some object →
      object.nameForm id = .literal name → Displays heap id name [id]
  | stored {id text : ObjectId} {object : HeapObject} {name : String} :
      heap.get? id = some object → object.nameForm id = .stored text →
      heap.get? text = some (.text name) → Displays heap id name [id]
  | around {id inner : ObjectId} {object : HeapObject} {before name after : String}
      {path : List ObjectId} : heap.get? id = some object →
      object.nameForm id = .around before inner after → Displays heap inner name path →
      Displays heap id (before ++ name ++ after) (id :: path)

variable {heap : Heap} {builtins : Builtins} {id other : ObjectId} {name : String}
  {path : List ObjectId}

namespace Displays

theorem contains (displays : heap.Displays id name path) : heap.contains id := by
  cases displays with
  | literal stored _ => exact contains_iff.mpr ⟨_, stored⟩
  | stored stored _ _ => exact contains_iff.mpr ⟨_, stored⟩
  | around stored _ _ => exact contains_iff.mpr ⟨_, stored⟩

/-- An object is displayed in one way. -/
theorem unique (displays : heap.Displays id name path) {name' : String} {path' : List ObjectId}
    (displays' : heap.Displays id name' path') : name = name' ∧ path = path' := by
  induction displays generalizing name' path' with
  | literal stored form =>
      cases displays' with
      | literal stored' form' => grind
      | stored stored' form' _ => grind
      | around stored' form' _ => grind
  | stored stored form text =>
      cases displays' with
      | literal stored' form' => grind
      | stored stored' form' text' => grind
      | around stored' form' _ => grind
  | around stored form _ ih =>
      cases displays' with
      | literal stored' form' => grind
      | stored stored' form' _ => grind
      | around stored' form' inner => grind

/-- What is visited has the rest of the path as its own. -/
theorem exists_suffix (displays : heap.Displays id name path) (mem : other ∈ path) :
    ∃ name' rest, heap.Displays other name' rest ∧ rest <:+ path := by
  induction displays with
  | literal stored form =>
      obtain rfl := List.mem_singleton.mp mem
      exact ⟨_, _, .literal stored form, List.suffix_rfl⟩
  | stored stored form text =>
      obtain rfl := List.mem_singleton.mp mem
      exact ⟨_, _, .stored stored form text, List.suffix_rfl⟩
  | around stored form inner ih =>
      rcases List.mem_cons.mp mem with rfl | mem
      · exact ⟨_, _, .around stored form inner, List.suffix_rfl⟩
      · obtain ⟨name', rest, displays', suffix⟩ := ih mem
        exact ⟨name', rest, displays', suffix.trans (List.suffix_cons _ _)⟩

theorem nodup (displays : heap.Displays id name path) : path.Nodup := by
  induction displays with
  | literal => exact List.nodup_singleton _
  | stored => exact List.nodup_singleton _
  | around stored form inner ih =>
      refine List.nodup_cons.mpr ⟨fun mem => ?_, ih⟩
      -- the object would have a proper part of its path as its path
      obtain ⟨_, rest, displays', suffix⟩ := inner.exists_suffix mem
      have same := (displays'.unique (.around stored form inner)).2
      have short := suffix.length_le
      rw [same, List.length_cons] at short
      omega

/-- A path is no longer than the row of slots. -/
theorem length_le (displays : heap.Displays id name path) : path.length ≤ heap.slotCount := by
  apply length_le_slotCount displays.nodup
  intro other mem
  obtain ⟨_, _, displays', _⟩ := displays.exists_suffix mem
  exact displays'.contains

theorem displayNameWithin (displays : heap.Displays id name path) {steps : Nat}
    (enough : path.length ≤ steps) : heap.displayNameWithin steps id = .ok name := by
  induction displays generalizing steps with
  | literal stored form =>
      cases steps with
      | zero => cases enough
      | succ steps =>
          rw [Heap.displayNameWithin, find_eq_ok_iff.mpr stored]
          simp only [bind, Except.bind, form]
          rfl
  | stored stored form text =>
      cases steps with
      | zero => cases enough
      | succ steps =>
          rw [Heap.displayNameWithin, find_eq_ok_iff.mpr stored]
          simp only [bind, Except.bind, form]
          exact findText_eq_ok_iff.mpr text
  | around stored form _ ih =>
      cases steps with
      | zero => cases enough
      | succ steps =>
          have inner := ih (Nat.le_of_succ_le_succ enough)
          rw [Heap.displayNameWithin, find_eq_ok_iff.mpr stored]
          simp only [bind, Except.bind, form, inner]
          rfl

/-- The computed display name of an object is the one it has. -/
theorem displayName (displays : heap.Displays id name path) : heap.displayName id = .ok name := by
  apply displays.displayNameWithin
  have bound := displays.length_le
  omega

end Displays

/-- The class of all classes has its name. -/
def AnchorNamed (builtins : Builtins) (heap : Heap) : Prop :=
  ∃ text, heap.Has builtins.anchor (HeapObject.HasName text) ∧
    heap.Has text (· = .text "Class")

/-- The name of the class of all classes is kept with it. -/
theorem AnchorNamed.continues {before after : Heap} (named : AnchorNamed builtins before)
    (continues : before.Continues after) (kept : after.contains builtins.anchor) :
    AnchorNamed builtins after := by
  obtain ⟨text, has, content⟩ := named
  refine ⟨text, has.continues (HeapObject.lasting_hasName text) continues kept, ?_⟩
  obtain ⟨_, stored, record, rfl, given⟩ := has
  have kept' := continues.closed stored kept (.inr (.inr (.inr (.inr given)))) content.contains
  exact content.continues (HeapObject.lasting_eq_text "Class") continues kept'

theorem keptByEdits_anchorNamed : KeptByEdits AnchorNamed := by
  intro builtins before after wf edit named
  have anchor := (edit.wellFormed wf).anchor_isOrdinary
  exact named.continues (edit.continues wf) anchor.contains

theorem anchorNamed_first [ReentrantMutex] (settings : Settings) :
    AnchorNamed (Image.first settings).builtins (Image.first settings).heap :=
  ⟨1, ⟨_, rfl, _, rfl, rfl⟩, _, rfl, rfl⟩

section Displayed

variable (wf : heap.WellFormed builtins) (named : AnchorNamed builtins heap)
include wf named

/-- The class of all classes is displayed by its name. -/
theorem WellFormed.displays_anchor :
    heap.Displays builtins.anchor "Class" [builtins.anchor] := by
  obtain ⟨text, ⟨_, stored, record, rfl, given⟩, _, content, rfl⟩ := named
  have unflagged : record.isSingleton = false := (wf.anchor_isOrdinary.of_get? stored).2
  exact .stored stored (ClassRecord.nameForm_of_name unflagged given _) content

/-- A class that is not a singleton class is displayed by its name or, without one, by the class
of all classes. -/
theorem WellFormed.exists_displays_of_unflagged {record : ClassRecord}
    (stored : heap.get? id = some (.classRecord record)) (unflagged : record.isSingleton = false) :
    ∃ name path, heap.Displays id name path := by
  have sound := (wf.sound stored).classRecord record rfl
  cases given : record.name with
  | some text =>
      obtain ⟨content, found⟩ := (sound.name text given).exists_text
      exact ⟨_, _, .stored stored (ClassRecord.nameForm_of_name unflagged given _) found⟩
  | none =>
      have form := ClassRecord.nameForm_of_anonymous unflagged given id
      rw [sound.owner unflagged] at form
      exact ⟨_, _, .around stored form (wf.displays_anchor named)⟩

theorem WellFormed.exists_displays_of_plain {header : Header}
    (stored : heap.get? id = some (.plain header)) : ∃ name path, heap.Displays id name path := by
  have ordinary := (wf.sound stored).plain header rfl
  obtain ⟨owner, found, _⟩ := ordinary.isInitialized.exists_classRecord
  obtain ⟨name, path, displays⟩ :=
    wf.exists_displays_of_unflagged named found (ordinary.of_get? found).2
  exact ⟨_, _, .around stored rfl displays⟩

/-- A singleton class is displayed by its object, whose superclass chain is shorter if it is a
class. -/
theorem WellFormed.exists_displays_of_lineage {chain : List ObjectId}
    (lineage : heap.Lineage builtins.root id chain) : ∃ name path, heap.Displays id name path := by
  induction size : chain.length using Nat.strong_induction_on generalizing id chain with
  | _ size ih =>
      obtain ⟨record, stored, _⟩ := lineage.isInitialized.exists_classRecord
      cases flagged : record.isSingleton with
      | false => exact wf.exists_displays_of_unflagged named stored flagged
      | true =>
          obtain ⟨object, attached, _, place⟩ := wf.attached_cases lineage stored flagged
          have form := ClassRecord.nameForm_of_attached flagged attached id
          have inner : ∃ name path, heap.Displays object name path := by
            rcases place with ⟨header, found, _⟩ | ⟨shorter, lineage', short⟩
            · exact wf.exists_displays_of_plain named found
            · exact ih shorter.length (size ▸ short) lineage' rfl
          obtain ⟨name, path, displays⟩ := inner
          exact ⟨_, _, .around stored form displays⟩

/-- Every object is displayed. -/
theorem WellFormed.exists_displays (live : heap.contains id) :
    ∃ name path, heap.Displays id name path := by
  obtain ⟨object, stored⟩ := contains_iff.mp live
  cases object with
  | text content => exact ⟨_, _, .literal stored rfl⟩
  | plain header => exact wf.exists_displays_of_plain named stored
  | classRecord record =>
      cases started : record.initialized with
      | true =>
          obtain ⟨chain, lineage⟩ := wf.exists_lineage ⟨_, stored, started⟩
          exact wf.exists_displays_of_lineage named lineage
      | false =>
          have apart := ((wf.sound stored).classRecord record rfl).apart started
          exact wf.exists_displays_of_unflagged named stored apart.2.2

end Displayed

/-- The display name of an object, or nothing for what has none. -/
def display (heap : Heap) (id : ObjectId) : String :=
  match heap.displayName id with
  | .ok name => name
  | .error _ => ""

end Heap

theorem Reached.anchorNamed [ReentrantMutex] {settings : Settings} {calls : List (Call ObjectId)}
    {image : Image}
    (reached : Reached settings calls image) : Heap.AnchorNamed image.builtins image.heap := by
  refine (reached.induct _ (Heap.anchorNamed_first settings) Heap.keptByEdits_anchorNamed ?_).2
  intro _ builtins heap wf named
  exact named.continues (Heap.grows_allocate wf.tidy _).continues
    wf.addClass.anchor_isOrdinary.contains

/-- In a reachable image every object has a display name. -/
theorem Reached.displayName_eq [ReentrantMutex] {settings : Settings} {calls : List (Call ObjectId)}
    {image : Image} (reached : Reached settings calls image) {id : ObjectId}
    (live : image.heap.contains id) :
    image.heap.displayName id = .ok (image.heap.display id) := by
  obtain ⟨name, path, displays⟩ :=
    reached.wellFormed.exists_displays reached.anchorNamed live
  rw [Heap.display, displays.displayName]

end Metamodel
