import Metamodel.Image.Singleton
import Metamodel.Proofs.Linking

/-!
# Execution

How operations on an image run. An operation that is not refused replaces the heap and adds events
to the journal; it leaves the lock as it found it. The steps of linking and of making a singleton
class are traced here to their effects on the heap.
-/

namespace Metamodel

variable [ReentrantMutex]

/-- An image with another heap and further events. -/
def Image.extend (image : Image) (heap : Heap) (events : List Event) : Image :=
  { image with heap, journal := image.journal ++ events }

theorem Image.extend_extend (image : Image) (first second : Heap) (events more : List Event) :
    (image.extend first events).extend second more = image.extend second (events ++ more) := by
  have journals : image.journal ++ events ++ more = image.journal ++ (events ++ more) := by
    apply Array.toList_inj.mp
    simp
  simp only [Image.extend, journals]

theorem Image.extend_nil (image : Image) : image.extend image.heap [] = image := by
  simp [extend]

/-- What an operation that is not refused answers and what it leaves. -/
structure Effect (α : Type) where
  value : α
  heap : Heap
  events : List Event

/-- How an operation ends that asks a question first: refused on the image as it was, or with an
effect that depends on the answer. -/
def Image.conclude {α β : Type} (image : Image) (question : Except Fault α)
    (effect : α → Effect β) : EStateM.Result Fault Image β :=
  match question with
  | .error fault => .error fault image
  | .ok answer =>
      .ok (effect answer).value (image.extend (effect answer).heap (effect answer).events)

theorem Image.conclude_of_error {α β : Type} (image : Image) {question : Except Fault α}
    {effect : α → Effect β} {fault : Fault} (refused : question = .error fault) :
    image.conclude question effect = .error fault image := by
  subst refused
  rfl

theorem Image.conclude_of_ok {α β : Type} (image : Image) {question : Except Fault α}
    {effect : α → Effect β} {answer : α} (found : question = .ok answer) :
    image.conclude question effect = .ok (effect answer).value
      (image.extend (effect answer).heap (effect answer).events) := by
  subst found
  rfl

theorem Image.exists_of_conclude {α β : Type} {image after : Image} {question : Except Fault α}
    {effect : α → Effect β} {value : β} (ended : image.conclude question effect = .ok value after) :
    ∃ answer, question = .ok answer ∧ value = (effect answer).value ∧
      after = image.extend (effect answer).heap (effect answer).events := by
  cases question with
  | error fault => cases ended
  | ok answer =>
      cases ended
      exact ⟨answer, rfl, rfl, rfl⟩

namespace ImageM

variable {α β : Type} {image middle : Image} {act : ImageM α} {value : α} {fault : Fault}

theorem bind_of_ok {next : α → ImageM β} {result : EStateM.Result Fault Image β}
    (first : act image = .ok value middle) (rest : next value middle = result) :
    (act >>= next) image = result := by
  rw [bind_apply, first]
  exact rest

theorem bind_of_error {next : α → ImageM β} (first : act image = .error fault middle) :
    (act >>= next) image = .error fault middle := by
  rw [bind_apply, first]

theorem exists_of_map {f : α → β} {answer : β} (ended : (f <$> act) image = .ok answer middle) :
    ∃ value, act image = .ok value middle ∧ answer = f value := by
  rw [map_apply] at ended
  split at ended
  · next value after first =>
      cases ended
      exact ⟨value, first, rfl⟩
  · cases ended

theorem locked_of_ok {heap : Heap} {events : List Event}
    (inner : act image.held = .ok value (image.held.extend heap events)) :
    locked act image = .ok value (image.extend heap events) :=
  locked_eq_ok inner

theorem locked_of_error (inner : act image.held = .error fault image.held) :
    locked act image = .error fault image :=
  locked_eq_error inner

theorem ask_of_ok {query : Heap → Except Fault α} (answer : query image.heap = .ok value) :
    ask query image = .ok value image := by
  rw [ask, answer]

theorem ask_of_error {query : Heap → Except Fault α} (answer : query image.heap = .error fault) :
    ask query image = .error fault image := by
  rw [ask, answer]

/-- A question changes nothing. -/
theorem locked_ask_apply (query : Heap → Except Fault α) (image : Image) :
    locked (ask query) image =
      image.conclude (query image.heap) fun answer => ⟨answer, image.heap, []⟩ := by
  unfold Image.conclude
  cases answer : query image.heap with
  | error fault => exact locked_of_error (ask_of_error answer)
  | ok value => exact locked_of_ok (ask_of_ok answer)

theorem locked_view_apply (look : Heap → α) (image : Image) :
    locked (view look) image = .ok (look image.heap) image :=
  locked_eq_ok rfl

theorem allocate_apply (object : HeapObject) (image : Image) :
    allocate object image =
      .ok image.heap.nextId (image.extend (image.heap.allocate object).2 []) := by
  rw [← Heap.allocate_fst image.heap object]
  rfl

theorem emit_apply (event : Event) (image : Image) :
    emit event image = .ok () (image.extend image.heap [event]) := rfl

theorem editClass_apply {id : ObjectId} {record : ClassRecord} (edit : ClassRecord → ClassRecord)
    (stored : image.heap.get? id = some (.classRecord record)) :
    editClass id edit image =
      .ok () (image.extend (image.heap.modify id (·.withClass edit)) []) :=
  bind_of_ok (ask_of_ok (Heap.findClass_eq_ok_iff.mpr stored)) rfl

theorem storeName_apply (name : String) (image : Image) :
    storeName name image = .ok (image.heap.storeName name).1
      (image.extend (image.heap.storeName name).2 []) := by
  unfold storeName Heap.storeName
  split
  · rfl
  · rw [map_apply, allocate_apply, Heap.allocate_fst]

variable {superclass subclass object singleton : ObjectId} {parent record : ClassRecord}

theorem joinUnder_apply (tidy : image.heap.Tidy) (name : String) (tag : Option TypeTag)
    (upper : image.heap.get? superclass = some (.classRecord parent))
    (lower : image.heap.get? subclass = some (.classRecord record)) :
    joinUnder superclass subclass name tag image = .ok () (image.extend
      (image.heap.joinUnder superclass subclass name (tag.getD parent.instanceTag)) []) := by
  have kept : (image.heap.storeName name).2.get? subclass = some (.classRecord record) := by
    rw [Heap.get?_storeName tidy, if_neg, lower]
    intro given
    rw [Heap.get?_eq_none_of_storeName tidy given] at lower
    cases lower
  refine bind_of_ok (ask_of_ok (Heap.findClass_eq_ok_iff.mpr upper)) ?_
  refine bind_of_ok (ask_of_ok (Heap.findClass_eq_ok_iff.mpr lower)) ?_
  refine bind_of_ok (storeName_apply name image) ?_
  exact editClass_apply _ kept

theorem attachSingleton_apply {header : Header}
    (target : image.heap.findHeader object = .ok header)
    (stored : image.heap.get? singleton = some (.classRecord record)) :
    attachSingleton object singleton image =
      .ok () (image.extend (image.heap.attachSingleton object singleton) []) := by
  refine bind_of_ok (ask_of_ok target) ?_
  refine bind_of_ok (editClass_apply _ stored) ?_
  rfl

end ImageM

/-- The events of a linking: a derived singleton class, if there is one to mirror. -/
def Heap.linkEvents (heap : Heap) (superclass subclass : ObjectId) : List Event :=
  match heap.singletonAbove superclass with
  | none => []
  | some _ => [.singletonDerived subclass heap.nextId]

/-- The events of making a singleton class. -/
def Heap.singletonEvents (heap : Heap) (object superclass : ObjectId) (parent : ClassRecord) :
    List Event :=
  (heap.addClass parent.owner).linkEvents superclass heap.nextId ++
    [.singletonCreated object heap.nextId superclass]

namespace ImageM

variable {image : Image} {superclass subclass object singleton : ObjectId}
  {parent record : ClassRecord} {name : String}

theorem deriveSingleton_apply (tidy : image.heap.Tidy)
    (upper : image.heap.get? superclass = some (.classRecord parent))
    (lower : image.heap.get? subclass = some (.classRecord record))
    (mirror : ∀ above, parent.singleton = some above →
      ∃ mirrored, image.heap.get? above = some (.classRecord mirrored)) :
    deriveSingleton superclass subclass image = .ok () (image.extend
      (image.heap.deriveSingleton subclass (image.heap.singletonAbove superclass))
      (image.heap.linkEvents superclass subclass)) := by
  refine bind_of_ok (ask_of_ok (Heap.findClass_eq_ok_iff.mpr upper)) ?_
  cases given : parent.singleton with
  | none =>
      rw [Heap.linkEvents, Heap.singletonAbove_of_none upper given]
      rfl
  | some above =>
      obtain ⟨mirrored, found⟩ := mirror above given
      have made := Heap.get?_addClass_nextId tidy above
      have found' := Heap.get?_addClass_of_some tidy above found
      have joined := Heap.get?_joinUnder (tidy.addClass above) made above ""
        mirrored.instanceTag
      have lower' : ((image.heap.addClass above).joinUnder above image.heap.nextId ""
          mirrored.instanceTag).get? subclass = some (.classRecord record) := by
        rw [joined, if_neg (tidy.ne_nextId lower), Heap.storeName_empty, if_neg (by rintro ⟨⟩),
          Heap.get?_addClass_of_some tidy _ lower]
      have isLower := Heap.findHeader_of_get? lower' rfl
      rw [Heap.linkEvents, Heap.singletonAbove_of_some upper given found]
      refine bind_of_ok (ask_of_ok (Heap.findClass_eq_ok_iff.mpr found)) ?_
      refine bind_of_ok (allocate_apply _ image) ?_
      refine bind_of_ok (locked_of_ok (joinUnder_apply (tidy.addClass above) "" _ found' made)) ?_
      refine bind_of_ok (attachSingleton_apply isLower ((joined _).trans (if_pos rfl))) ?_
      rw [emit_apply]
      simp only [Image.extend_extend, List.nil_append]
      rfl

theorem link_apply (image : Image) (tidy : image.heap.Tidy) (tag : Option TypeTag)
    (upper : image.heap.get? superclass = some (.classRecord parent))
    (lower : image.heap.get? subclass = some (.classRecord record))
    (ne : superclass ≠ subclass)
    (mirror : ∀ above, parent.singleton = some above →
      ∃ mirrored, image.heap.get? above = some (.classRecord mirrored)) :
    link superclass subclass name tag image = .ok () (image.extend
      (image.heap.link superclass subclass name (tag.getD parent.instanceTag))
      (image.heap.linkEvents superclass subclass)) := by
  obtain ⟨received, lower'⟩ := Heap.exists_get?_deriveSingleton tidy
    (image.heap.singletonAbove superclass) lower
  have upper' := Heap.get?_deriveSingleton_of_ne tidy (image.heap.singletonAbove superclass)
    lower upper ne
  have derived := tidy.deriveSingleton subclass (image.heap.singletonAbove superclass)
  refine locked_of_ok ?_
  refine bind_of_ok (deriveSingleton_apply tidy upper lower mirror) ?_
  refine (joinUnder_apply derived name tag upper' lower').trans ?_
  rw [Image.extend_extend, List.append_nil]
  rfl

theorem makeSingleton_apply (image : Image) (tidy : image.heap.Tidy) {stored : HeapObject}
    {header : Header} (target : image.heap.get? object = some stored)
    (isHeader : stored.header? = some header)
    (upper : image.heap.get? superclass = some (.classRecord parent))
    (started : parent.initialized)
    (mirror : ∀ above, parent.singleton = some above →
      ∃ mirrored, image.heap.get? above = some (.classRecord mirrored)) :
    makeSingleton object superclass image = .ok image.heap.nextId (image.extend
      (image.heap.makeSingleton object superclass parent)
      (image.heap.singletonEvents object superclass parent)) := by
  have tidy' := tidy.addClass parent.owner
  have upper' := Heap.get?_addClass_of_some tidy parent.owner upper
  have lower' := Heap.get?_addClass_nextId tidy parent.owner
  have mirror' : ∀ above, parent.singleton = some above →
      ∃ mirrored, (image.heap.addClass parent.owner).get? above =
        some (.classRecord mirrored) := by
    intro above given
    obtain ⟨mirrored, found⟩ := mirror above given
    exact ⟨mirrored, Heap.get?_addClass_of_some tidy _ found⟩
  obtain ⟨text, derived, links⟩ :=
    Heap.exists_links tidy' "" parent.instanceTag upper' started lower' rfl (.inl rfl) mirror'
  have target' := links.kept (Heap.get?_addClass_of_some tidy _ target) (tidy.ne_nextId target)
  have isTarget := Heap.findHeader_of_get? target' isHeader
  refine bind_of_ok (ask_of_ok (Heap.findClass_eq_ok_iff.mpr upper)) ?_
  refine bind_of_ok (allocate_apply _ image) ?_
  refine bind_of_ok (link_apply _ tidy' _ upper' lower' (tidy.ne_nextId upper) mirror') ?_
  refine bind_of_ok (attachSingleton_apply isTarget links.joined) ?_
  refine bind_of_ok (emit_apply _ _) ?_
  simp only [Image.extend_extend, List.nil_append, List.append_nil]
  rfl

end ImageM

end Metamodel
