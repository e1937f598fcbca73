import Mathlib.Algebra.Group.Nat.Hom
import Metamodel.CountingMutex
import Metamodel.Proofs.Display

/-!
# The forms of names

What the names of a reachable image look like. There are four kinds of objects to tell apart, and
each has one form: a singleton class shows the object it is attached to, a class with a name shows
that name, a class without one and an instance show an owner and an id. As the frame of a
declaration only a class with a name is shown differently.
-/

namespace Metamodel

open Session

namespace Text.Hexadecimal

/-- A number below a power of sixteen has no more digits than the exponent says. -/
theorem length_digits_le {n k : Nat} (h : n < 16 ^ (k + 1)) : (digits n).length ≤ k + 1 := by
  induction k generalizing n with
  | zero =>
      have small : n < 16 := by simpa using h
      simp [digits, small]
  | succ k ih =>
      unfold digits
      split
      · simp
      · have shorter : n / 16 < 16 ^ (k + 1) :=
          Nat.div_lt_of_lt_mul (by rwa [Nat.pow_succ'] at h)
        simpa using ih shorter

end Text.Hexadecimal

/-- An id of sixty-four bits is written with exactly sixteen digits. -/
theorem ObjectId.length_hexDigits {id : ObjectId} (small : id < 2 ^ 64) :
    (hexDigits id).length = 16 := by
  have digits : (Text.Hexadecimal.digits id).length ≤ 15 + 1 :=
    Text.Hexadecimal.length_digits_le small
  rw [hexDigits, Text.length_padLeft]
  omega

namespace Heap

variable {heap : Heap} {builtins : Builtins} {id text : ObjectId} {record : ClassRecord}
  {content : String}

section Named

variable (stored : heap.get? id = some (.classRecord record))
include stored

theorem className_of_name (given : record.name = some text)
    (found : heap.get? text = some (.text content)) :
    heap.className id = .ok (some content) := by
  simp only [className, findClass_eq_ok_iff.mpr stored, bind, Except.bind, given,
    findText_eq_ok_iff.mpr found]
  rfl

theorem className_of_nameless (nameless : record.name = none) :
    heap.className id = .ok none := by
  simp only [className, findClass_eq_ok_iff.mpr stored, bind, Except.bind, nameless]
  rfl

/-- A class with a name is marked as one in the frame of its declaration. -/
theorem backtraceName_of_name (unflagged : record.isSingleton = false)
    (given : record.name = some text) (found : heap.get? text = some (.text content)) :
    heap.backtraceName id = .ok ("<class:" ++ content ++ ">") := by
  simp only [backtraceName, className_of_name stored given found,
    findClass_eq_ok_iff.mpr stored, bind, Except.bind, unflagged]
  rfl

/-- A class without a name is shown in the frame of its declaration as everywhere else. -/
theorem backtraceName_of_nameless (nameless : record.name = none) :
    heap.backtraceName id = heap.displayName id := by
  simp only [backtraceName, className_of_nameless stored nameless,
    findClass_eq_ok_iff.mpr stored, bind, Except.bind]

end Named

variable (wf : heap.WellFormed builtins) (named : AnchorNamed builtins heap)
include wf

/-- A class with a name is shown by the text of that name. -/
theorem WellFormed.displayName_of_name (stored : heap.get? id = some (.classRecord record))
    (unflagged : record.isSingleton = false) (given : record.name = some text) :
    ∃ content, heap.get? text = some (.text content) ∧ heap.displayName id = .ok content := by
  have sound := (wf.sound stored).classRecord record rfl
  obtain ⟨content, found⟩ := (sound.name text given).exists_text
  exact ⟨content, found,
    (Displays.stored stored (ClassRecord.nameForm_of_name unflagged given id) found).displayName⟩

include named

/-- A singleton class is shown by the object it is attached to. -/
theorem WellFormed.displayName_of_singleton (stored : heap.get? id = some (.classRecord record))
    (flagged : record.isSingleton) :
    ∃ object name, record.attached = some object ∧ heap.displayName object = .ok name ∧
      heap.displayName id = .ok ("#<Class:" ++ name ++ ">") := by
  obtain ⟨object, attached, has⟩ := wf.exists_attached stored flagged
  obtain ⟨name, path, inner⟩ := wf.exists_displays named has.contains
  have form := ClassRecord.nameForm_of_attached flagged attached id
  exact ⟨object, name, attached, inner.displayName, (Displays.around stored form inner).displayName⟩

/-- A class without a name is owned by the class of all classes and shows the name of that. -/
theorem WellFormed.displayName_of_anonymous (stored : heap.get? id = some (.classRecord record))
    (unflagged : record.isSingleton = false) (nameless : record.name = none) :
    heap.displayName id = .ok ("#<Class:0x" ++ String.ofList id.hexDigits ++ ">") := by
  have form := ClassRecord.nameForm_of_anonymous unflagged nameless id
  rw [((wf.sound stored).classRecord record rfl).owner unflagged] at form
  rw [(Displays.around stored form (wf.displays_anchor named)).displayName, ObjectId.text_eq]
  simp [← String.toList_inj]

/-- An instance shows the name of its class. -/
theorem WellFormed.displayName_of_plain {header : Header}
    (stored : heap.get? id = some (.plain header)) :
    ∃ name, heap.displayName header.owner = .ok name ∧
      heap.displayName id = .ok ("#<" ++ name ++ ":0x" ++ String.ofList id.hexDigits ++ ">") := by
  have owned := (wf.sound stored).plain header rfl
  obtain ⟨name, path, inner⟩ := wf.exists_displays named owned.contains
  refine ⟨name, inner.displayName, ?_⟩
  rw [(Displays.around stored rfl inner).displayName, ObjectId.text_eq]
  simp [← String.toList_inj]

/-- Every class has a name in the frame of its declaration. -/
theorem WellFormed.exists_backtraceName (stored : heap.get? id = some (.classRecord record)) :
    ∃ name, heap.backtraceName id = .ok name := by
  have sound := (wf.sound stored).classRecord record rfl
  cases given : record.name with
  | none =>
      obtain ⟨name, path, displays⟩ :=
        wf.exists_displays named (contains_iff.mpr ⟨_, stored⟩)
      exact ⟨name, (backtraceName_of_nameless stored given).trans displays.displayName⟩
  | some text =>
      have unflagged : record.isSingleton = false := by
        apply Bool.eq_false_iff.mpr
        intro flagged
        rw [sound.nameless flagged] at given
        cases given
      obtain ⟨content, found⟩ := (sound.name text given).exists_text
      exact ⟨_, backtraceName_of_name stored unflagged given found⟩

end Heap

/-- Every object of a heap has the name that its kind asks for. -/
structure Heap.WellNamed (heap : Heap) : Prop where
  total : ∀ id, heap.contains id → ∃ name, heap.displayName id = .ok name
  /-- Every class has a name in the frame of its declaration. -/
  totalFrame : ∀ id, heap.isClass id → ∃ name, heap.backtraceName id = .ok name
  /-- A singleton class is shown by the object it is attached to. -/
  singleton : ∀ id record, heap.get? id = some (.classRecord record) → record.isSingleton →
    ∃ object name, record.attached = some object ∧ heap.displayName object = .ok name ∧
      heap.displayName id = .ok ("#<Class:" ++ name ++ ">") ∧
      heap.backtraceName id = heap.displayName id
  /-- A class with a name is shown by that name, which the frame marks. -/
  named : ∀ id record text, heap.get? id = some (.classRecord record) →
    record.isSingleton = false → record.name = some text →
    ∃ content, heap.get? text = some (.text content) ∧ heap.displayName id = .ok content ∧
      heap.backtraceName id = .ok ("<class:" ++ content ++ ">")
  /-- A class without a name is shown by its id. -/
  anonymous : ∀ id record, heap.get? id = some (.classRecord record) →
    record.isSingleton = false → record.name = none →
    heap.displayName id = .ok ("#<Class:0x" ++ String.ofList id.hexDigits ++ ">") ∧
      heap.backtraceName id = heap.displayName id
  /-- An instance is shown by the name of its class and its own id. -/
  plain : ∀ id header, heap.get? id = some (.plain header) →
    ∃ name, heap.displayName header.owner = .ok name ∧
      heap.displayName id = .ok ("#<" ++ name ++ ":0x" ++ String.ofList id.hexDigits ++ ">")

theorem Heap.WellFormed.wellNamed {heap : Heap} {builtins : Builtins}
    (wf : heap.WellFormed builtins) (named : AnchorNamed builtins heap) : heap.WellNamed where
  total := by
    intro id live
    obtain ⟨name, path, displays⟩ := wf.exists_displays named live
    exact ⟨name, displays.displayName⟩
  totalFrame := by
    intro id isClass
    obtain ⟨record, stored⟩ := isClass_iff.mp isClass
    exact wf.exists_backtraceName named stored
  singleton := by
    intro id record stored flagged
    obtain ⟨object, name, attached, inner, shown⟩ :=
      wf.displayName_of_singleton named stored flagged
    have nameless := ((wf.sound stored).classRecord record rfl).nameless flagged
    exact ⟨object, name, attached, inner, shown, backtraceName_of_nameless stored nameless⟩
  named := by
    intro id record text stored unflagged given
    obtain ⟨content, found, shown⟩ := wf.displayName_of_name stored unflagged given
    exact ⟨content, found, shown, backtraceName_of_name stored unflagged given found⟩
  anonymous := by
    intro id record stored unflagged nameless
    exact ⟨wf.displayName_of_anonymous named stored unflagged nameless,
      backtraceName_of_nameless stored nameless⟩
  plain := by
    intro id header stored
    exact wf.displayName_of_plain named stored

/-- In a reachable image every object has a display name, and every class a name in the frame of
its declaration. A singleton class is shown by its object, however deep they are nested, a class
with a name by that name, and a class without one and an instance by their ids. The id is written
in lower-case hexadecimal, with sixteen digits for ids of sixty-four bits. -/
theorem Reached.well_named [ReentrantMutex] {settings : Settings} {calls : List (Call ObjectId)}
    {image : Image} (reached : Reached settings calls image) :
    image.heap.WellNamed ∧ ∀ id : ObjectId,
      Text.Hexadecimal.value id.hexDigits = id ∧
        (∀ c ∈ id.hexDigits, Text.Hexadecimal.isDigit c) ∧
        (id < 2 ^ 64 → id.hexDigits.length = 16) := by
  refine ⟨reached.wellFormed.wellNamed reached.anchorNamed, fun id => ⟨?_, ?_, ?_⟩⟩
  · exact ObjectId.value_hexDigits id
  · exact fun c mem => ObjectId.isDigit_of_mem_hexDigits mem
  · exact fun small => ObjectId.length_hexDigits small

/-- The case of a new class without a name, in slot 11, and of its singleton class. -/
theorem Reached.well_named_newClass : ∃ image,
    Reached .standard [.declare (.newClass none)] image ∧
      image.heap.displayName 11 = .ok "#<Class:0x000000000000000b>" ∧
      image.heap.displayName 12 = .ok "#<Class:#<Class:0x000000000000000b>>" ∧
      image.heap.backtraceName 12 = image.heap.displayName 12 := by
  have reached := Reached.afterFirst .standard [.declare (.newClass none)]
  let image := (Image.first .standard).afterCalls [.declare (.newClass none)]
  let record : ClassRecord :=
    { ClassRecord.fresh 0 with
      singleton := some 12, superclass := some 3, instanceTag := .object, initialized := true }
  have stored : image.heap.get? 11 = some (.classRecord record) := by decide +kernel
  have isMirror : image.heap.get? 12 = some (.classRecord (.singletonOf 11 4 4 .classTag)) := by
    decide +kernel
  obtain ⟨names, _⟩ := Reached.well_named reached
  obtain ⟨shown, _⟩ := names.anonymous 11 record stored rfl rfl
  obtain ⟨object, name, attached, inner, outer, same⟩ := names.singleton 12 _ isMirror rfl
  cases attached
  have digits : ObjectId.hexDigits 11 = "000000000000000b".toList := by decide +kernel
  rw [digits] at shown
  rw [shown] at inner
  cases inner
  exact ⟨image, reached, shown, outer, same⟩

end Metamodel
