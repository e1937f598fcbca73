import Metamodel.Proofs.Calls
import Metamodel.Proofs.Correspondence

/-!
# Simulation

Two images that are related by a renaming go on alike: a structural call on the one and the same
call on the objects that stand for its arguments on the other are refused for faults of one kind,
or answered with values that agree. Then an extended renaming relates the images that they leave.
-/

namespace Metamodel

open Session

namespace Heap

/-- Singleton classes are provided alike, by induction on the ascent. -/
theorem Provides.lockstep {f : Renaming} {builtins builtins' : Builtins} {heap after : Heap}
    {object singleton : ObjectId} {events : List Event}
    (provides : heap.Provides builtins object singleton after events) {other after' : Heap}
    {object' singleton' : ObjectId} {events' : List Event}
    (provides' : other.Provides builtins' object' singleton' after' events')
    (twins : Twins f heap other) (anchors : f.Sends builtins.anchor builtins'.anchor)
    (sends : f.Sends object object') :
    ∃ g : Renaming, Lockstep f heap other g after after' ∧ g.Sends singleton singleton' := by
  induction provides generalizing object' singleton' after' events' with
  | known target isHeader given =>
      obtain ⟨_, stored', found, target', alike⟩ := twins.resembles.object sends
      rw [target] at found
      cases found
      obtain ⟨header', isHeader', alike⟩ := exists_of_rel alike.header? isHeader
      obtain ⟨known', given', sends'⟩ := exists_of_rel alike.singleton given
      obtain ⟨rfl, rfl, _⟩ := provides'.of_known target' isHeader' given'
      exact ⟨f, .refl twins, sends'⟩
  | plain target alone upper =>
      obtain ⟨_, stored', found, target', alike⟩ := twins.resembles.object sends
      rw [target] at found
      cases found
      cases alike with
      | plain alike =>
          obtain ⟨parent', upper', rfl, rfl⟩ :=
            provides'.of_plain target' (eq_none_of_rel alike.singleton alone)
          obtain ⟨_, isParent, alike'⟩ := twins.resembles.classRecord alike.owner upper
          obtain rfl := classRecord_inj upper' isParent
          exact twins.makeSingleton sends alike.owner alike'
  | top target _ alone bare upper =>
      obtain ⟨record', target', alike⟩ := twins.resembles.classRecord sends target
      obtain ⟨parent', upper', rfl, rfl⟩ := provides'.of_top target'
        (eq_none_of_rel alike.header.singleton alone) (eq_none_of_rel alike.superclass bare)
      obtain ⟨_, isParent, alike'⟩ := twins.resembles.classRecord anchors upper
      obtain rfl := classRecord_inj upper' isParent
      exact twins.makeSingleton sends anchors alike'
  | beside target _ alone next _ upper ih =>
      obtain ⟨record', target', alike⟩ := twins.resembles.classRecord sends target
      obtain ⟨superclass', next', sends'⟩ := exists_of_rel alike.superclass next
      obtain ⟨above', middle', earlier', parent', provided', upper', rfl, rfl⟩ :=
        provides'.of_beside target' (eq_none_of_rel alike.header.singleton alone) next'
      -- the superclass is provided first, and the object is as it was before
      obtain ⟨g, ascent, above⟩ := ih provided' sends'
      obtain ⟨_, isParent, alike'⟩ := ascent.twins.resembles.classRecord above upper
      obtain rfl := classRecord_inj upper' isParent
      obtain ⟨h, made, new⟩ := ascent.twins.makeSingleton (ascent.keeps _ _ sends) above alike'
      exact ⟨h, ascent.trans made, new⟩

end Heap

namespace ClassRecord.Alike

variable {f : Renaming} {record record' : ClassRecord} (alike : record.Alike f record')
include alike

theorem refuseInitialization : record.refuseInitialization = record'.refuseInitialization := by
  simp only [ClassRecord.refuseInitialization, alike.initialized]

theorem refuseInstance : record.refuseInstance = record'.refuseInstance := by
  simp only [ClassRecord.refuseInstance, alike.initialized, alike.isSingleton]

theorem refuseName : record.refuseName = record'.refuseName := by
  simp only [ClassRecord.refuseName, alike.isSingleton]

end ClassRecord.Alike

namespace Image.Resembles

variable [ReentrantMutex] {f : Renaming} {image other : Image} {settings settings' : Settings}
  {calls calls' : List (Call ObjectId)} {id id' : ObjectId}
  (resembles : Image.Resembles f image other) (reached : Reached settings calls image)
  (reached' : Reached settings' calls' other)
include resembles

theorem refuseSubclass (sends : f.Sends id id') {record record' : ClassRecord}
    (alike : record.Alike f record') : record.refuseSubclass image.builtins.anchor id =
      record'.refuseSubclass other.builtins.anchor id' := by
  have same := resembles.heap.eq_iff sends resembles.anchor
  unfold ClassRecord.refuseSubclass
  simp only [same, alike.isSingleton, alike.initialized]

/-- The images that follow, when their heaps have gone on alike. -/
theorem extend {g : Renaming} {after after' : Heap}
    (step : Heap.Lockstep f image.heap other.heap g after after') (events events' : List Event) :
    Image.Resembles g (image.extend after events) (other.extend after' events') where
  heap := step.twins.resembles
  anchor := step.keeps _ _ resembles.anchor
  root := step.keeps _ _ resembles.root
  objectClass := step.keeps _ _ resembles.objectClass
  moduleClass := step.keeps _ _ resembles.moduleClass

include reached reached'

theorem twins : Heap.Twins f image.heap other.heap :=
  ⟨resembles.heap, reached.wellFormed.ready, reached'.wellFormed.ready⟩

/-- A class is admitted where the one that stands for it is. -/
theorem accept {refusal? refusal?' : ClassRecord → Option Fault} (sends : f.Sends id id')
    (same : ∀ {record record'}, ClassRecord.Alike f record record' →
      refusal? record = refusal?' record') :
    Answered (ClassRecord.Alike f) (image.heap.accept refusal? id)
      (other.heap.accept refusal?' id') := by
  unfold Heap.accept
  have found := resembles.findClass reached reached' sends
  generalize image.heap.findClass id = question at found ⊢
  generalize other.heap.findClass id' = question' at found ⊢
  cases found with
  | refused kinds => exact .refused kinds
  | @answered record record' alike =>
      simp only [same alike]
      cases refusal?' record' with
      | none => exact .answered alike
      | some fault => exact .refused rfl

theorem acceptSuperclass (sends : f.Sends id id') :
    Answered (ClassRecord.Alike f)
      (image.heap.acceptSuperclass image.builtins.anchor id)
      (other.heap.acceptSuperclass other.builtins.anchor id') := by
  have classes : image.heap.isClass id = other.heap.isClass id' :=
    isSome_of_rel (resembles.heap.classRecord? sends)
  unfold Heap.acceptSuperclass
  rw [← classes]
  split
  · exact resembles.accept reached reached' sends
      (resembles.refuseSubclass sends)
  · obtain ⟨object, object', stored, stored', _⟩ := resembles.heap.object sends
    rw [Heap.ownerDisplayName_eq (fun _ => reached.displayName_eq) reached.wellFormed stored,
      Heap.ownerDisplayName_eq (fun _ => reached'.displayName_eq) reached'.wellFormed stored']
    exact .refused rfl

theorem acceptDeclaration {declared declared' : ObjectId} (below : f.Sends declared declared')
    (above : f.Sends id id') :
    Answered (fun found found' => ClassRecord.Alike f found.1 found'.1 ∧
        ClassRecord.Alike f found.2 found'.2)
      (image.heap.acceptDeclaration image.builtins.anchor declared id)
      (other.heap.acceptDeclaration other.builtins.anchor declared' id') := by
  have lower : Answered (ClassRecord.Alike f)
      (image.heap.accept (·.refuseInitialization) declared)
      (other.heap.accept (·.refuseInitialization) declared') :=
    resembles.accept reached reached' below ClassRecord.Alike.refuseInitialization
  have upper := resembles.acceptSuperclass reached reached' above
  unfold Heap.acceptDeclaration
  generalize image.heap.accept (·.refuseInitialization) declared = question at lower ⊢
  generalize other.heap.accept (·.refuseInitialization) declared' = question' at lower ⊢
  generalize image.heap.acceptSuperclass image.builtins.anchor id = further at upper ⊢
  generalize other.heap.acceptSuperclass other.builtins.anchor id' = further' at upper ⊢
  cases lower with
  | refused kinds => exact .refused kinds
  | answered alike =>
      cases upper with
      | refused kinds => exact .refused kinds
      | answered alike' => exact .answered ⟨alike, alike'⟩

end Image.Resembles

/-- How a call ends on two images that a renaming relates: it is refused on both, for faults of one
kind, and they are as they were, or answered on both with values that agree. Then the renaming is
extended to new objects, and relates the images that are left. -/
inductive Image.Paces [ReentrantMutex] (f : Renaming) (image other : Image) :
    EStateM.Result Fault Image Value → EStateM.Result Fault Image Value → Prop
  | refused {fault fault' : Fault} : fault.SameKind fault' →
      Paces f image other (.error fault image) (.error fault' other)
  | answered {g : Renaming} {value value' : Value} {after after' : Image} :
      Heap.Lockstep f image.heap other.heap g after.heap after'.heap →
      Image.Resembles g after after' → value.Alike g value' →
      Paces f image other (.ok value after) (.ok value' after')

/-- The same declaration of related objects. -/
inductive Declaration.Alike {ρ σ : Type} (related : ρ → σ → Prop) :
    Declaration ρ → Declaration σ → Prop
  | initializeClass {declared : ρ} {declared' : σ} {superclass : Option ρ}
      {superclass' : Option σ} : related declared declared' →
      Option.Rel related superclass superclass' →
      Alike related (.initializeClass declared superclass) (.initializeClass declared' superclass')
  | newClass {superclass : Option ρ} {superclass' : Option σ} :
      Option.Rel related superclass superclass' →
      Alike related (.newClass superclass) (.newClass superclass')

namespace Session

/-- The same structural call on related objects: one that makes no collection and does not ask
about slots, events or the lock. -/
inductive Call.Alike {ρ σ : Type} (related : ρ → σ → Prop) : Call ρ → Call σ → Prop
  | subclass {receiver : ρ} {receiver' : σ} (name : String) (tag : Option TypeTag) :
      related receiver receiver' →
      Alike related (.subclass receiver name tag) (.subclass receiver' name tag)
  | declare {declaration : Declaration ρ} {declaration' : Declaration σ} :
      declaration.Alike related declaration' →
      Alike related (.declare declaration) (.declare declaration')
  | allocateClass : Alike related .allocateClass .allocateClass
  | newObject {owner : ρ} {owner' : σ} : related owner owner' →
      Alike related (.newObject owner) (.newObject owner')
  | assignName {target : ρ} {target' : σ} (name : String) : related target target' →
      Alike related (.assignName target name) (.assignName target' name)
  | singletonClass {object : ρ} {object' : σ} : related object object' →
      Alike related (.singletonClass object) (.singletonClass object')
  | pin {object : ρ} {object' : σ} : related object object' →
      Alike related (.pin object) (.pin object')
  | unpin {object : ρ} {object' : σ} : related object object' →
      Alike related (.unpin object) (.unpin object')
  | builtins : Alike related .builtins .builtins
  | inspect {question : Inspection} {object : ρ} {object' : σ} : question.IsStructural →
      related object object' → Alike related (.inspect question object) (.inspect question object')

end Session

namespace Image.Paces

variable [ReentrantMutex] {α α' β β' : Type} {f : Renaming} {image other : Image}

/-- An operation that asks a question first keeps pace when the questions are answered alike and
its effects are alike. -/
theorem conclude {act : ImageM β} {act' : ImageM β'} {question : Except Fault α}
    {question' : Except Fault α'} {effect : α → Effect β} {effect' : α' → Effect β'}
    {related : α → α' → Prop} {wrap : β → Value} {wrap' : β' → Value}
    (resembles : Image.Resembles f image other)
    (same : act image = image.conclude question effect)
    (same' : act' other = other.conclude question' effect')
    (asked : Answered related question question')
    (further : ∀ {answer answer'}, question = .ok answer → question' = .ok answer' →
      related answer answer' → ∃ g : Renaming,
        Heap.Lockstep f image.heap other.heap g (effect answer).heap (effect' answer').heap ∧
          (wrap (effect answer).value).Alike g (wrap' (effect' answer').value)) :
    Paces f image other ((wrap <$> act) image) ((wrap' <$> act') other) := by
  rw [ImageM.map_apply, ImageM.map_apply, same, same']
  cases asked with
  | refused kinds => exact .refused kinds
  | answered alike =>
      obtain ⟨g, step, values⟩ := further rfl rfl alike
      exact .answered step (resembles.extend step _ _) values

end Image.Paces

/-- The singleton class of an object: a text has none, and an uninitialized class neither. -/
theorem Image.Resembles.singletonClass [ReentrantMutex] {f : Renaming} {image other : Image}
    {settings settings' : Settings} {calls calls' : List (Call ObjectId)}
    {object object' : ObjectId} (resembles : Image.Resembles f image other)
    (reached : Reached settings calls image) (reached' : Reached settings' calls' other)
    (sends : f.Sends object object') :
    Image.Paces f image other ((Value.id <$> Image.singletonClass object) image)
      ((Value.id <$> Image.singletonClass object') other) := by
  have wf := reached.wellFormed
  have wf' := reached'.wellFormed
  obtain ⟨stored, stored', target, target', alike⟩ := resembles.heap.object sends
  rw [ImageM.map_apply, ImageM.map_apply]
  cases isHeader : stored.header? with
  | none =>
      have isHeader' := eq_none_of_rel alike.header? isHeader
      have unknown : (image.heap.get? object).bind HeapObject.header? = none := by
        rw [target]
        exact isHeader
      have unknown' : (other.heap.get? object').bind HeapObject.header? = none := by
        rw [target']
        exact isHeader'
      rw [Image.singletonClass_of_unknown (Heap.findHeader_of_none unknown),
        Image.singletonClass_of_unknown (Heap.findHeader_of_none unknown')]
      exact .refused rfl
  | some header =>
      obtain ⟨header', isHeader', _⟩ := exists_of_rel alike.header? isHeader
      rcases stored.raw_or_started with ⟨record, rfl, raw⟩ | started
      · obtain ⟨record', target', alike⟩ := resembles.heap.classRecord sends target
        rw [Image.singletonClass_of_raw wf target raw,
          Image.singletonClass_of_raw wf' target' (alike.initialized.symm.trans raw)]
        exact .refused rfl
      · have started' : ∀ record', stored' = .classRecord record' → record'.initialized := by
          rintro record' rfl
          cases alike with
          | classRecord alike => exact alike.initialized.symm.trans (started _ rfl)
        obtain ⟨singleton, after, events, done, provides⟩ :=
          Image.singletonClass_of_live wf target isHeader started
        obtain ⟨singleton', after', events', done', provides'⟩ :=
          Image.singletonClass_of_live wf' target' isHeader' started'
        obtain ⟨g, step, new⟩ := provides.lockstep provides' (resembles.twins reached reached')
          resembles.anchor sends
        rw [done, done']
        exact .answered step (resembles.extend step _ _) (.id new)

/-- A declaration on one image and the same declaration on a related image keep pace. -/
theorem Declaration.Alike.paces [ReentrantMutex] {f : Renaming} {image other : Image}
    {settings settings' : Settings}
    {calls calls' : List (Call ObjectId)} {declaration declaration' : Declaration ObjectId}
    (alike : declaration.Alike f.Sends declaration') (resembles : Image.Resembles f image other)
    (reached : Reached settings calls image) (reached' : Reached settings' calls' other) :
    Image.Paces f image other ((Call.declare declaration).perform image)
      ((Call.declare declaration').perform other) := by
  have wf := reached.wellFormed
  have wf' := reached'.wellFormed
  have twins := resembles.twins reached reached'
  cases alike with
  | initializeClass below above =>
      have upper := Renaming.sends_getD above resembles.root
      refine .conclude resembles (Image.initializeClass_apply wf _ _)
        (Image.initializeClass_apply wf' _ _)
        (resembles.acceptDeclaration reached reached' below upper) ?_
      rintro ⟨record, parent⟩ ⟨record', parent'⟩ _ _ ⟨_, alike⟩
      obtain ⟨g, step⟩ := twins.link upper below "" parent.instanceTag
      rw [← alike.instanceTag]
      exact ⟨g, step, .id (step.keeps _ _ below)⟩
  | newClass above =>
      have upper := Renaming.sends_getD above resembles.root
      refine .conclude resembles (Image.newClass_apply wf _) (Image.newClass_apply wf' _)
        (resembles.acceptSuperclass reached reached' upper) ?_
      intro parent parent' _ _ alike
      obtain ⟨g, step, new⟩ := twins.linkNew resembles.anchor upper "" parent.instanceTag
      rw [← alike.instanceTag]
      exact ⟨g, step, .id new⟩

namespace Session.Call.Alike

variable [ReentrantMutex] {f : Renaming} {image other : Image} {settings settings' : Settings}
  {calls calls' : List (Call ObjectId)} {call call' : Call ObjectId}

/-- A structural call on one image and the same call on a related image keep pace. -/
theorem paces (alike : call.Alike f.Sends call') (resembles : Image.Resembles f image other)
    (reached : Reached settings calls image) (reached' : Reached settings' calls' other) :
    Image.Paces f image other (call.perform image) (call'.perform other) := by
  have wf := reached.wellFormed
  have wf' := reached'.wellFormed
  have twins := resembles.twins reached reached'
  cases alike with
  | subclass name tag sends =>
      refine .conclude resembles (Image.subclass_apply wf _ name tag)
        (Image.subclass_apply wf' _ name tag)
        (resembles.accept reached reached' sends (resembles.refuseSubclass sends)) ?_
      intro record record' _ _ alike
      obtain ⟨g, step, new⟩ := twins.linkNew resembles.anchor sends name
        (tag.getD record.instanceTag)
      rw [← alike.instanceTag]
      exact ⟨g, step, .id new⟩
  | declare alike => exact alike.paces resembles reached reached'
  | allocateClass =>
      obtain ⟨g, step, new⟩ := twins.addClass resembles.anchor
      rw [perform, ImageM.map_apply, ImageM.map_apply, Image.allocateClass_apply,
        Image.allocateClass_apply]
      exact .answered step (resembles.extend step _ _) (.id new)
  | newObject sends =>
      refine .conclude resembles (Image.newObject_apply _ _) (Image.newObject_apply _ _)
        (resembles.accept reached reached' sends ClassRecord.Alike.refuseInstance) ?_
      intro record record' _ _ alike
      obtain ⟨g, step, new⟩ := twins.allocate (.plain (.fresh alike.instanceTag sends))
      exact ⟨g, step, .id new⟩
  | assignName name sends =>
      refine .conclude resembles (Image.assignName_apply wf.tidy _ name)
        (Image.assignName_apply wf'.tidy _ name)
        (resembles.accept reached reached' sends ClassRecord.Alike.refuseName) ?_
      intro record record' _ _ alike
      have unnamed : record.name = none ↔ record'.name = none := by
        rw [← Option.isNone_iff_eq_none, ← Option.isNone_iff_eq_none, ← Option.not_isSome,
          ← Option.not_isSome, isSome_of_rel alike.name]
      simp only [unnamed]
      split
      · obtain ⟨g, step⟩ := twins.assignName sends name
        exact ⟨g, step, .nothing⟩
      · exact ⟨f, .refl twins, .nothing⟩
  | singletonClass sends =>
      exact resembles.singletonClass reached reached' sends
  | @pin object object' sends =>
      obtain ⟨live, live'⟩ := resembles.heap.contains sends
      have asked : Answered (Heap.Lockstep f image.heap other.heap f) (image.heap.pin object)
          (other.heap.pin object') := by
        rw [Heap.pin_eq_ok_iff.mpr ⟨live, rfl⟩, Heap.pin_eq_ok_iff.mpr ⟨live', rfl⟩]
        exact .answered (twins.pin sends)
      exact .conclude resembles (Image.pin_apply _ _) (Image.pin_apply _ _) asked
        fun _ _ step => ⟨f, step, .nothing⟩
  | unpin sends =>
      obtain ⟨step, same⟩ := twins.unpin sends
      rw [perform, perform, ImageM.map_apply, ImageM.map_apply, Image.unpin_apply,
        Image.unpin_apply, same]
      exact .answered step (resembles.extend step _ _) (.flag _)
  | builtins =>
      exact .answered (.refl twins) resembles (.ids (.cons resembles.anchor (.cons resembles.root
        (.cons resembles.objectClass (.cons resembles.moduleClass .nil)))))
  | @inspect question object object' structural sends =>
      have asked := resembles.answer reached reached' structural sends
      rw [perform, perform, ImageM.locked_ask_apply, ImageM.locked_ask_apply]
      generalize question.answer image.heap object = first at asked ⊢
      generalize question.answer other.heap object' = second at asked ⊢
      cases asked with
      | refused kinds => exact .refused kinds
      | answered alike =>
          exact .answered (.refl twins) (resembles.extend (.refl twins) _ _) alike

end Session.Call.Alike

end Metamodel
