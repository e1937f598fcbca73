import Metamodel.Proofs.Ancestry
import Metamodel.Proofs.Edits
import Metamodel.Proofs.Operations

/-!
# Provision of singleton classes

Asking for the singleton class of a class provides one for its superclass first. The relation
below follows that ascent. It is a row of edits, each of which changes one class of the superclass
chain, so the classes further down are found as they were when their turn comes. The operation
ascends no further than the chain is long.
-/

namespace Metamodel

namespace Heap

/-- How an object comes to have a singleton class: it has one, or one is made for it below the
class where it belongs. For a class that is the singleton class of its superclass, which is
provided first. -/
inductive Provides (builtins : Builtins) (heap : Heap) :
    ObjectId → ObjectId → Heap → List Event → Prop
  | known {object singleton : ObjectId} {stored : HeapObject} {header : Header} :
      heap.get? object = some stored → stored.header? = some header →
      header.singleton = some singleton → Provides builtins heap object singleton heap []
  | plain {object : ObjectId} {header : Header} {parent : ClassRecord} :
      heap.get? object = some (.plain header) → header.singleton = none →
      heap.get? header.owner = some (.classRecord parent) →
      Provides builtins heap object heap.nextId (heap.makeSingleton object header.owner parent)
        (heap.singletonEvents object header.owner parent)
  | top {object : ObjectId} {record parent : ClassRecord} :
      heap.get? object = some (.classRecord record) → record.initialized →
      record.singleton = none → record.superclass = none →
      heap.get? builtins.anchor = some (.classRecord parent) →
      Provides builtins heap object heap.nextId
        (heap.makeSingleton object builtins.anchor parent)
        (heap.singletonEvents object builtins.anchor parent)
  | beside {object superclass above : ObjectId} {record parent : ClassRecord} {middle : Heap}
      {events : List Event} : heap.get? object = some (.classRecord record) →
      record.initialized → record.singleton = none → record.superclass = some superclass →
      Provides builtins heap superclass above middle events →
      middle.get? above = some (.classRecord parent) →
      Provides builtins heap object middle.nextId (middle.makeSingleton object above parent)
        (events ++ middle.singletonEvents object above parent)

/-- What an ascent from an object comes to. -/
structure Provision (builtins : Builtins) (heap after : Heap) (object singleton : ObjectId) :
    Prop where
  edits : Edits builtins heap after
  grows : heap.Grows after
  has : after.Has object (HeapObject.HasSingleton singleton)
  /-- Only the object and the classes on its superclass chain change. -/
  kept : ∀ {id : ObjectId} {stored : HeapObject}, heap.get? id = some stored → id ≠ object →
    (∀ chain, heap.Lineage builtins.root object chain → id ∉ chain) →
    after.get? id = some stored
  /-- No object that has a singleton class changes. -/
  spared : ∀ {id : ObjectId} {stored : HeapObject} {header : Header},
    heap.get? id = some stored → stored.header? = some header → header.singleton ≠ none →
    after.get? id = some stored

variable {builtins : Builtins} {heap after : Heap} {object singleton superclass : ObjectId}
  {events : List Event}

namespace Provides

variable {record : ClassRecord} (provides : heap.Provides builtins object singleton after events)
include provides

/-- An object that has a singleton class keeps it. -/
theorem of_known {stored : HeapObject} {header : Header} {known : ObjectId}
    (target : heap.get? object = some stored) (isHeader : stored.header? = some header)
    (given : header.singleton = some known) : singleton = known ∧ after = heap ∧ events = [] := by
  cases provides with
  | known target' isHeader' given' => grind
  | plain target' alone _ => grind [HeapObject.header?]
  | top target' _ alone _ _ => grind [HeapObject.header?]
  | beside target' _ alone _ _ _ => grind [HeapObject.header?]

/-- An instance receives one below its class. -/
theorem of_plain {header : Header} (target : heap.get? object = some (.plain header))
    (alone : header.singleton = none) :
    ∃ parent, heap.get? header.owner = some (.classRecord parent) ∧ singleton = heap.nextId ∧
      after = heap.makeSingleton object header.owner parent := by
  cases provides with
  | known target' isHeader' given' => grind [HeapObject.header?]
  | plain target' _ upper => grind
  | top target' _ _ _ _ => grind
  | beside target' _ _ _ _ _ => grind

/-- A class without a superclass receives one below the class of all classes. -/
theorem of_top (target : heap.get? object = some (.classRecord record))
    (alone : record.singleton = none) (bare : record.superclass = none) :
    ∃ parent, heap.get? builtins.anchor = some (.classRecord parent) ∧ singleton = heap.nextId ∧
      after = heap.makeSingleton object builtins.anchor parent := by
  cases provides with
  | known target' isHeader' given' => grind [HeapObject.header?]
  | plain target' _ _ => grind
  | top target' _ _ _ upper => grind
  | beside target' _ _ next _ _ => grind

/-- Any other class receives one below the singleton class of its superclass. -/
theorem of_beside {superclass : ObjectId} (target : heap.get? object = some (.classRecord record))
    (alone : record.singleton = none) (next : record.superclass = some superclass) :
    ∃ above middle earlier parent, heap.Provides builtins superclass above middle earlier ∧
      middle.get? above = some (.classRecord parent) ∧ singleton = middle.nextId ∧
      after = middle.makeSingleton object above parent := by
  cases provides with
  | known target' isHeader' given' => grind [HeapObject.header?]
  | plain target' _ _ => grind
  | top target' _ _ bare _ => grind
  | beside target' _ _ next' provides upper => grind

end Provides

/-- Making one singleton class in its place. -/
theorem WellFormed.provision (wf : heap.WellFormed builtins) {stored : HeapObject}
    {header : Header} {parent : ClassRecord} (target : heap.get? object = some stored)
    (isHeader : stored.header? = some header) (alone : header.singleton = none)
    (started : ∀ record, stored = .classRecord record → record.initialized)
    (below : heap.SingletonBelow builtins.anchor stored superclass)
    (upper : heap.get? superclass = some (.classRecord parent)) :
    Provision builtins heap (heap.makeSingleton object superclass parent) object heap.nextId := by
  obtain ⟨derived, attaches⟩ := wf.attaches target isHeader alone upper
  constructor
  · exact .single (.makeSingleton target isHeader alone started below upper)
  · exact attaches.grows
  · exact attaches.held
  · intro id other found ne _
    exact attaches.kept found ne
  · intro id other header' found isHeader' given
    apply attaches.kept found
    rintro rfl
    rw [target] at found
    cases found
    rw [isHeader] at isHeader'
    cases isHeader'
    exact given alone

/-- An ascent from the superclass of a class leaves the class alone, for the class is not on the
chain of its superclass. -/
theorem Provision.kept_below (provision : Provision builtins heap after superclass singleton)
    (wf : heap.WellFormed builtins) {record : ClassRecord}
    (target : heap.get? object = some (.classRecord record)) (started : record.initialized)
    (next : record.superclass = some superclass) :
    after.get? object = some (.classRecord record) := by
  obtain ⟨chain, lineage⟩ := wf.exists_lineage_above target next
  have apart : object ∉ chain := lineage.not_mem_above target started next
  have ne : object ≠ superclass := fun same => apart (same ▸ lineage.mem_self)
  exact provision.kept target ne fun _ lineage' => lineage.unique lineage' ▸ apart

/-- An ascent is a row of edits on the chain of the object. -/
theorem Provides.provision (provides : heap.Provides builtins object singleton after events)
    (wf : heap.WellFormed builtins) : Provision builtins heap after object singleton := by
  induction provides with
  | known target isHeader given =>
      exact ⟨.refl, .refl _, ⟨_, target, _, isHeader, given⟩, fun found _ _ => found,
        fun found _ _ => found⟩
  | plain target alone upper =>
      exact wf.provision target rfl alone (by rintro record ⟨⟩) (.plain _) upper
  | top target started alone bare upper =>
      exact wf.provision target rfl alone (by rintro record ⟨⟩; exact started) (.top bare) upper
  | @beside object superclass above record parent middle events target started alone next _
      upper ih =>
      obtain ⟨chain, lineage⟩ := wf.exists_lineage_above target next
      have target' := ih.kept_below wf target started next
      have last := (ih.edits.wellFormed wf).provision target' rfl alone
        (by rintro _ ⟨⟩; exact started) (.beside next ih.has) upper
      constructor
      · exact ih.edits.trans last.edits
      · exact ih.grows.trans last.grows
      · exact last.has
      · intro id stored found here offChain
        have off : id ∉ chain := fun mem =>
          offChain _ (.under target started next lineage) (List.mem_cons_of_mem _ mem)
        have elsewhere : id ≠ superclass := fun same => off (same ▸ lineage.mem_self)
        have found' := ih.kept found elsewhere fun _ lineage' => lineage.unique lineage' ▸ off
        obtain ⟨derived, attaches⟩ :=
          (ih.edits.wellFormed wf).attaches target' rfl alone upper
        exact attaches.kept found' here
      · intro id stored header found isHeader given
        exact last.spared (ih.spared found isHeader given) isHeader given

end Heap

namespace ImageM

variable [ReentrantMutex] {image : Image} {object superclass : ObjectId} {stored : HeapObject}
  {header : Header}
  {record parent : ClassRecord}

theorem singletonPlace_of_plain
    (target : image.heap.get? object = some (.plain header)) :
    singletonPlace object header image = .ok (.below header.owner) image := by
  simp [singletonPlace, view, bind_apply, target, HeapObject.classRecord?, pure_apply]

theorem singletonPlace_of_raw (target : image.heap.get? object = some (.classRecord record))
    (raw : record.initialized = false) :
    singletonPlace object record.header image = .error .uninitializedClass image := by
  simp [singletonPlace, view, bind_apply, target, HeapObject.classRecord?, raw, throw_apply]

theorem singletonPlace_of_top (target : image.heap.get? object = some (.classRecord record))
    (started : record.initialized) (bare : record.superclass = none) :
    singletonPlace object record.header image = .ok (.below image.builtins.anchor) image := by
  simp [singletonPlace, view, bind_apply, target, HeapObject.classRecord?, started, bare]
  rfl

theorem singletonPlace_of_beside
    (target : image.heap.get? object = some (.classRecord record)) (started : record.initialized)
    (next : record.superclass = some superclass) :
    singletonPlace object record.header image = .ok (.belowSingletonOf superclass) image := by
  simp [singletonPlace, view, bind_apply, target, HeapObject.classRecord?, started, next,
    pure_apply]

/-- The singleton class of an object is made in a well-formed heap without a fault. -/
theorem makeSingleton_of_below (image : Image) (wf : image.heap.WellFormed image.builtins)
    (target : image.heap.get? object = some stored) (isHeader : stored.header? = some header)
    (below : image.heap.SingletonBelow image.builtins.anchor stored superclass)
    (upper : image.heap.get? superclass = some (.classRecord parent)) :
    makeSingleton object superclass image = .ok image.heap.nextId (image.extend
      (image.heap.makeSingleton object superclass parent)
      (image.heap.singletonEvents object superclass parent)) := by
  obtain ⟨above, found, started⟩ := (wf.isInitialized_above target below).exists_classRecord
  obtain rfl := Heap.classRecord_inj upper found
  exact makeSingleton_apply image wf.tidy target isHeader upper started
    (wf.exists_singleton upper rfl)

theorem singletonClassWithin_of_known {singleton : ObjectId} (steps : Nat)
    (target : image.heap.get? object = some stored) (isHeader : stored.header? = some header)
    (given : header.singleton = some singleton) :
    singletonClassWithin (steps + 1) object image = .ok singleton (image.extend image.heap []) := by
  have isTarget := Heap.findHeader_of_get? target isHeader
  refine locked_of_ok (bind_of_ok (ask_of_ok isTarget) ?_)
  simp only [given]
  rfl

theorem singletonClassWithin_of_plain (wf : image.heap.WellFormed image.builtins) (steps : Nat)
    (target : image.heap.get? object = some (.plain header)) (alone : header.singleton = none)
    (upper : image.heap.get? header.owner = some (.classRecord parent)) :
    singletonClassWithin (steps + 1) object image = .ok image.heap.nextId (image.extend
      (image.heap.makeSingleton object header.owner parent)
      (image.heap.singletonEvents object header.owner parent)) := by
  have isTarget := Heap.findHeader_of_get? target rfl
  refine locked_of_ok (bind_of_ok (ask_of_ok isTarget) ?_)
  simp only [alone]
  refine bind_of_ok (singletonPlace_of_plain target) ?_
  exact makeSingleton_of_below image.held wf target rfl (.plain header) upper

/-- The ascent from a class takes no more steps than its superclass chain has classes. -/
theorem singletonClassWithin_of_lineage {builtins : Builtins} {heap : Heap}
    (wf : heap.WellFormed builtins) {chain : List ObjectId}
    (lineage : heap.Lineage builtins.root object chain) {steps : Nat}
    (enough : chain.length ≤ steps) (image : Image) (isHeap : image.heap = heap)
    (areBuiltins : image.builtins = builtins) :
    ∃ singleton after events,
      singletonClassWithin steps object image = .ok singleton (image.extend after events) ∧
        heap.Provides builtins object singleton after events := by
  induction lineage generalizing steps image with
  | @root record target started bare =>
      subst isHeap areBuiltins
      cases steps with
      | zero => cases enough
      | succ steps =>
          cases given : record.singleton with
          | some singleton =>
              exact ⟨_, _, _, singletonClassWithin_of_known steps target rfl given,
                .known target rfl given⟩
          | none =>
              obtain ⟨parent, upper, _⟩ := (wf.isInitialized_above target
                (.top bare)).exists_classRecord
              have isTarget := Heap.findHeader_of_get? target rfl
              have made := makeSingleton_of_below image.held wf target rfl (.top bare) upper
              refine ⟨_, _, _, ?_, .top target started given bare upper⟩
              refine locked_of_ok (bind_of_ok (ask_of_ok isTarget) ?_)
              simp only [given]
              exact bind_of_ok (singletonPlace_of_top target started bare) made
  | @under id superclass record above target started next lineage ih =>
      subst isHeap areBuiltins
      cases steps with
      | zero => cases enough
      | succ steps =>
          cases given : record.singleton with
          | some singleton =>
              exact ⟨_, _, _, singletonClassWithin_of_known steps target rfl given,
                .known target rfl given⟩
          | none =>
              obtain ⟨mirrored, middle, events, ascended, provides⟩ :=
                ih (Nat.le_of_succ_le_succ enough) image.held rfl rfl
              have provision := provides.provision wf
              have wf' := provision.edits.wellFormed wf
              have target' := provision.kept_below wf target started next
              have below : middle.SingletonBelow image.builtins.anchor (.classRecord record)
                  mirrored := .beside next provision.has
              obtain ⟨parent, upper, _⟩ :=
                (wf'.isInitialized_above target' below).exists_classRecord
              have isTarget := Heap.findHeader_of_get? target rfl
              have made := makeSingleton_of_below (image.held.extend middle events) wf' target'
                rfl below upper
              rw [Image.extend_extend] at made
              refine ⟨_, _, _, ?_, .beside target started given next provides upper⟩
              refine locked_of_ok (bind_of_ok (ask_of_ok isTarget) ?_)
              simp only [given]
              refine bind_of_ok (singletonPlace_of_beside target started next) ?_
              exact bind_of_ok ascended made

end ImageM

namespace Image

open ImageM

variable [ReentrantMutex] {image : Image} {object : ObjectId}

/-- An object that is not there, and a text, have no singleton class. -/
theorem singletonClass_of_unknown {fault : Fault}
    (unknown : image.heap.findHeader object = .error fault) :
    singletonClass object image = .error fault image := by
  refine bind_of_ok rfl ?_
  have asked : ask (·.findHeader object) image.held = .error fault image.held :=
    ask_of_error unknown
  exact locked_of_error (bind_of_error asked)

theorem singletonClass_of_raw (wf : image.heap.WellFormed image.builtins) {record : ClassRecord}
    (target : image.heap.get? object = some (.classRecord record))
    (raw : record.initialized = false) :
    singletonClass object image = .error .uninitializedClass image := by
  have alone := (((wf.sound target).classRecord record rfl).apart raw).2.1
  have isTarget := Heap.findHeader_of_get? target rfl
  have asked : ask (·.findHeader object) image.held = .ok record.header image.held :=
    ask_of_ok isTarget
  refine bind_of_ok rfl ?_
  refine locked_of_error (bind_of_ok asked ?_)
  simp only [alone]
  exact bind_of_error (singletonPlace_of_raw target raw)

/-- Every instance and every initialized class is provided with a singleton class. -/
theorem singletonClass_of_live (wf : image.heap.WellFormed image.builtins) {stored : HeapObject}
    {header : Header} (target : image.heap.get? object = some stored)
    (isHeader : stored.header? = some header)
    (started : ∀ record, stored = .classRecord record → record.initialized) :
    ∃ singleton after events,
      singletonClass object image = .ok singleton (image.extend after events) ∧
        image.heap.Provides image.builtins object singleton after events := by
  cases stored with
  | classRecord record =>
      obtain ⟨chain, lineage⟩ := wf.exists_lineage ⟨_, target, started record rfl⟩
      have enough : chain.length ≤ image.heap.slotCount + 1 :=
        Nat.le_succ_of_le lineage.length_le
      obtain ⟨singleton, after, events, ascended, provides⟩ :=
        singletonClassWithin_of_lineage wf lineage enough image rfl rfl
      exact ⟨singleton, after, events, bind_of_ok rfl ascended, provides⟩
  | plain header =>
      cases given : header.singleton with
      | some singleton =>
          exact ⟨_, _, _, bind_of_ok rfl (singletonClassWithin_of_known _ target rfl given),
            .known target rfl given⟩
      | none =>
          obtain ⟨parent, upper, _⟩ :=
            (wf.isInitialized_above target (.plain header)).exists_classRecord
          exact ⟨_, _, _, bind_of_ok rfl (singletonClassWithin_of_plain wf _ target given upper),
            .plain target given upper⟩
  | text content => cases isHeader

end Image

end Metamodel
