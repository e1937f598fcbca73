import Metamodel.Proofs.Ancestry
import Metamodel.Session.Inspection

/-!
# Blame

Which id a question reports as unknown. In a well-formed heap every reference leads to an object
of the right kind, so a question that follows references can fail only at the id that it was asked
about.
-/

namespace Metamodel

/-- No object is reported as unknown unless it is one of the given ones. -/
def Blames {α : Type} (ids : List ObjectId) (result : Except Fault α) : Prop :=
  ∀ id, result = .error (.unknownObject id) → id ∈ ids

namespace Blames

variable {α β : Type} {ids more : List ObjectId} {question : Except Fault α}

theorem ok (answer : α) : Blames ids (.ok answer : Except Fault α) := by
  intro id refused
  cases refused

theorem error {fault : Fault} (other : ∀ id, fault ≠ .unknownObject id) :
    Blames ids (.error fault : Except Fault α) := by
  intro id refused
  cases refused
  exact absurd rfl (other id)

theorem mono (blames : Blames ids question) (sub : ids ⊆ more) : Blames more question :=
  fun id refused => sub (blames id refused)

theorem bind {next : α → Except Fault β} (first : Blames ids question)
    (rest : ∀ answer, question = .ok answer → Blames ids (next answer)) :
    Blames ids (question >>= next) := by
  cases question with
  | error fault =>
      intro id refused
      apply first id
      cases refused
      rfl
  | ok answer => exact rest answer rfl

theorem map (f : α → β) (blames : Blames ids question) : Blames ids (f <$> question) := by
  cases question with
  | error fault =>
      intro id refused
      apply blames id
      cases refused
      rfl
  | ok answer => exact ok (f answer)

end Blames

namespace Heap

variable {heap : Heap} {builtins : Builtins} {id : ObjectId} {object : HeapObject}

theorem blames_find (heap : Heap) (id : ObjectId) : Blames [id] (heap.find id) := by
  intro other refused
  unfold find at refused
  split at refused
  · cases refused
  · cases refused
    exact List.mem_singleton_self _

theorem blames_findHeader (heap : Heap) (id : ObjectId) : Blames [id] (heap.findHeader id) := by
  apply (heap.blames_find id).bind
  intro object _
  split
  · exact .ok _
  · intro other refused
    cases refused
    exact List.mem_singleton_self _

theorem blames_findText (heap : Heap) (id : ObjectId) : Blames [id] (heap.findText id) := by
  apply (heap.blames_find id).bind
  intro object _
  split
  · exact .ok _
  · intro other refused
    cases refused
    exact List.mem_singleton_self _

theorem Has.exists_text (text : heap.Has id HeapObject.IsText) :
    ∃ content, heap.get? id = some (.text content) := by
  obtain ⟨object, stored, isText⟩ := text
  cases object with
  | classRecord record => cases isText
  | plain header => cases isText
  | text content => exact ⟨content, stored⟩

variable (wf : heap.WellFormed builtins)
include wf

/-- A name that is stored is a text. -/
theorem WellFormed.isText_of_nameForm (stored : heap.get? id = some object) {name : ObjectId}
    (form : object.nameForm id = .stored name) : heap.Has name HeapObject.IsText := by
  cases object with
  | classRecord record =>
      apply ((wf.sound stored).classRecord record rfl).name
      unfold HeapObject.nameForm ClassRecord.nameForm at form
      simp only at form
      split at form
      · cases form
      · next given =>
          cases form
          exact given
      · cases form
  | plain header => cases form
  | text content => cases form

/-- A name that is computed is computed from that of a live object. -/
theorem WellFormed.contains_of_nameForm (stored : heap.get? id = some object)
    {before after : String} {inner : ObjectId}
    (form : object.nameForm id = .around before inner after) : heap.contains inner := by
  cases object with
  | classRecord record =>
      have owner := ((wf.sound stored).header _ rfl).owner
      have sound := (wf.sound stored).classRecord record rfl
      simp only [HeapObject.nameForm, ClassRecord.nameForm] at form
      cases given : record.attached.filter fun _ => record.isSingleton with
      | some object =>
          rw [given] at form
          cases form
          have attached := (Option.filter_eq_some_iff.mp given).1
          exact (sound.attached _ attached).contains
      | none =>
          rw [given] at form
          cases named : record.name with
          | some name =>
              rw [named] at form
              cases form
          | none =>
              rw [named] at form
              cases form
              exact owner.contains
  | plain header =>
      cases form
      exact ((wf.sound stored).header _ rfl).owner.contains
  | text content => cases form

/-- The display name of a live object leads to live objects only. -/
theorem WellFormed.blames_displayNameWithin {steps : Nat} (live : heap.contains id) :
    Blames [] (heap.displayNameWithin steps id) := by
  induction steps generalizing id with
  | zero => exact .error (by simp)
  | succ steps ih =>
      obtain ⟨object, stored⟩ := contains_iff.mp live
      rw [displayNameWithin, find_eq_ok_iff.mpr stored]
      simp only [bind, Except.bind]
      cases form : object.nameForm id with
      | literal text => exact .ok _
      | stored name =>
          obtain ⟨content, found⟩ := (wf.isText_of_nameForm stored form).exists_text
          simp only [findText_eq_ok_iff.mpr found]
          exact .ok _
      | around before inner after =>
          apply (ih (wf.contains_of_nameForm stored form)).bind
          intro name _
          exact .ok _

/-- A live object is always displayed without an unknown one. -/
theorem WellFormed.blames_displayName_of_contains (live : heap.contains id) :
    Blames [] (heap.displayName id) :=
  wf.blames_displayNameWithin live

theorem WellFormed.blames_displayName (id : ObjectId) : Blames [id] (heap.displayName id) := by
  cases live : heap.contains id with
  | true => exact (wf.blames_displayName_of_contains live).mono (List.nil_subset _)
  | false =>
      unfold displayName displayNameWithin
      apply (heap.blames_find id).bind
      intro object found
      rw [find_eq_ok_iff, contains_eq_false_iff.mp live] at found
      cases found

theorem WellFormed.blames_findClass (id : ObjectId) : Blames [id] (heap.findClass id) := by
  apply (heap.blames_find id).bind
  intro object found
  have live := contains_iff.mpr ⟨object, find_eq_ok_iff.mp found⟩
  split
  · exact .ok _
  · apply ((wf.blames_displayName_of_contains live).mono (List.nil_subset _)).bind
    intro display _
    exact .error (by simp)

theorem WellFormed.blames_className (id : ObjectId) : Blames [id] (heap.className id) := by
  apply (wf.blames_findClass id).bind
  intro record found
  have sound := (wf.sound (findClass_eq_ok_iff.mp found)).classRecord record rfl
  split
  · next name given =>
      obtain ⟨content, read⟩ := (sound.name name given).exists_text
      rw [findText_eq_ok_iff.mpr read]
      exact .ok _
  · exact .ok _

theorem WellFormed.blames_backtraceName (id : ObjectId) :
    Blames [id] (heap.backtraceName id) := by
  apply (wf.blames_className id).bind
  intro name _
  apply (wf.blames_findClass id).bind
  intro record found
  have live := contains_iff.mpr ⟨_, findClass_eq_ok_iff.mp found⟩
  split
  · exact .ok _
  · exact (wf.blames_displayName_of_contains live).mono (List.nil_subset _)

theorem WellFormed.blames_ownerDisplayName (id : ObjectId) :
    Blames [id] (heap.ownerDisplayName id) := by
  apply (heap.blames_find id).bind
  intro object found
  split
  · next header isHeader =>
      have owner := ((wf.sound (find_eq_ok_iff.mp found)).header header isHeader).owner
      exact (wf.blames_displayName_of_contains owner.contains).mono (List.nil_subset _)
  · exact .ok _

theorem WellFormed.blames_ancestors (id : ObjectId) : Blames [id] (heap.ancestors id) := by
  unfold ancestors ancestorsWithin
  apply (wf.blames_findClass id).bind
  intro record found
  have stored := findClass_eq_ok_iff.mp found
  cases next : record.superclass with
  | none => exact .ok _
  | some superclass =>
      obtain ⟨above, lineage⟩ := wf.exists_lineage_above stored next
      simp only [lineage.ancestorsWithin lineage.length_le]
      exact .ok _

theorem WellFormed.blames_dispatchChain (id : ObjectId) :
    Blames [id] (heap.dispatchChain id) := by
  cases found : heap.findHeader id with
  | error fault =>
      unfold dispatchChain
      apply (heap.blames_findHeader id).bind
      intro header isHeader
      rw [found] at isHeader
      cases isHeader
  | ok header =>
      obtain ⟨object, stored, isHeader⟩ :=
        Option.bind_eq_some_iff.mp (findHeader_eq_ok_iff.mp found)
      obtain ⟨chain, _, visited⟩ := wf.exists_dispatchChain stored isHeader
      rw [visited]
      exact .ok _

/-- A question about an object reports no other one as unknown. -/
theorem WellFormed.blames_answer (question : Session.Inspection) (id : ObjectId) :
    Blames [id] (question.answer heap id) := by
  cases question with
  | contains => exact .ok _
  | isClass => exact .ok _
  | isMarked => exact .ok _
  | object => exact (heap.blames_find id).map _
  | header => exact (heap.blames_findHeader id).map _
  | classRecord => exact (wf.blames_findClass id).map _
  | text => exact (heap.blames_findText id).map _
  | references => exact (heap.blames_find id).map _
  | className => exact (wf.blames_className id).map _
  | displayName => exact (wf.blames_displayName id).map _
  | backtraceName => exact (wf.blames_backtraceName id).map _
  | ownerDisplayName => exact (wf.blames_ownerDisplayName id).map _
  | owner => exact (heap.blames_findHeader id).map _
  | tag => exact (heap.blames_findHeader id).map _
  | superclass => exact (wf.blames_findClass id).map _
  | isSingleton => exact (wf.blames_findClass id).map _
  | singleton => exact (heap.blames_findHeader id).map _
  | ancestors => exact (wf.blames_ancestors id).map _
  | dispatchChain => exact (wf.blames_dispatchChain id).map _

end Heap

end Metamodel
