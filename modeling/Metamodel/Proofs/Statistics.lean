import Mathlib.Combinatorics.Enumerative.DoubleCounting
import Metamodel.CountingMutex
import Metamodel.Proofs.Display
import Metamodel.Proofs.Reports
import Metamodel.Proofs.SlotLayout

/-!
# Consistent statistics

The figures of a census are computed from three places: the slots, the vacant list and the pins.
In a reachable image they agree with the objects that are there and with each other. Singleton
classes are as many as the objects that have one, for the two correspond one to one, and there are
no more names than texts, for no text is the name of two classes. A collection frees the texts that
are no names any more, so that both numbers are the same after it. The report that is asked for
shows these figures and no others.
-/

namespace Metamodel

open Session

namespace HeapObject

/-- A class, whatever its kind. -/
def isClass (object : HeapObject) : Bool :=
  object.classRecord?.isSome

/-- An object for which a singleton class has been made. -/
def hasSingleton (object : HeapObject) : Bool :=
  (object.header?.bind Header.singleton).isSome

/-- A class with a name. -/
def hasName (object : HeapObject) : Bool :=
  (Heap.nameOf object).isSome

/-- The content of a text. -/
def content? : HeapObject → Option String
  | text content => some content
  | _ => none

end HeapObject

namespace Heap

/-- The ids of the objects with a property. -/
def having (heap : Heap) (property : HeapObject → Bool) : Finset ObjectId :=
  (Finset.range heap.slotCount).filter fun id => (heap.get? id).any property

/-- The contents of the texts of a heap, in slot order. -/
def contents (heap : Heap) : List String :=
  (List.range heap.slotCount).filterMap fun id => (heap.findText id).toOption

variable {heap : Heap} {builtins : Builtins} {id : ObjectId} {property : HeapObject → Bool}

theorem mem_having : id ∈ heap.having property ↔ heap.Has id (property ·) := by
  unfold having Has
  rw [Finset.mem_filter, Finset.mem_range, Option.any_eq_true]
  constructor
  · exact fun ⟨_, found⟩ => found
  · intro ⟨object, stored, holds⟩
    exact ⟨lt_slotCount_of_contains (contains_iff.mpr ⟨object, stored⟩), object, stored, holds⟩

/-- The objects are those in the slots. -/
theorem objects_eq (heap : Heap) :
    heap.objects = (List.range heap.slotCount).filterMap heap.get? := by
  rw [objects, toList_slots, List.filterMap_map]
  rfl

theorem length_objects (heap : Heap) : heap.objects.length = heap.liveCount := by
  rw [objects, List.length_filterMap_eq_countP, liveCount, ← Array.countP_toList]
  rfl

/-- Going through the objects counts their ids. -/
theorem countP_objects (heap : Heap) (property : HeapObject → Bool) :
    heap.objects.countP property = (heap.having property).card := by
  have here : ∀ id, ((heap.get? id).map property).getD false = (heap.get? id).any property := by
    intro id
    cases heap.get? id <;> rfl
  rw [objects_eq, List.countP_filterMap, List.countP_eq_length_filter, having, Finset.card_def,
    Finset.filter_val, Finset.range_val, Multiset.range, Multiset.filter_coe, Multiset.coe_card]
  simp only [here, Bool.decide_eq_true]

theorem findText_toOption (heap : Heap) (id : ObjectId) :
    (heap.findText id).toOption = (heap.get? id).bind HeapObject.content? := by
  unfold findText find
  cases heap.get? id with
  | none => rfl
  | some object => cases object <;> rfl

theorem contents_eq (heap : Heap) : heap.contents = heap.objects.filterMap HeapObject.content? := by
  simp only [contents, findText_toOption, objects_eq, List.filterMap_filterMap]

end Heap

section Kinds

theorem ClassRecord.kind_cases (record : ClassRecord) :
    record.kind = .singletonClass ∨ record.kind = .uninitializedClass ∨
      record.kind = .namedClass ∨ record.kind = .anonymousClass := by
  unfold kind
  split_ifs <;> simp

theorem ClassRecord.kind_eq_singletonClass (record : ClassRecord) :
    record.kind = .singletonClass ↔ record.isSingleton := by
  unfold kind
  split_ifs <;> simp [*]

/-- An object is of one kind: one of four for a class, and one each for the rest. -/
theorem HeapObject.kind_cases (object : HeapObject) :
    object.isClass ∧
        (object.kind = .singletonClass ∨ object.kind = .uninitializedClass ∨
          object.kind = .namedClass ∨ object.kind = .anonymousClass) ∨
      object.isClass = false ∧ (object.kind = .plain ∨ object.kind = .text) := by
  cases object with
  | classRecord record => exact .inl ⟨rfl, record.kind_cases⟩
  | plain header => exact .inr ⟨rfl, .inl rfl⟩
  | text content => exact .inr ⟨rfl, .inr rfl⟩

/-- The four kinds of classes are all the classes. -/
theorem countP_classes (objects : List HeapObject) :
    objects.countP (·.kind = .namedClass) + objects.countP (·.kind = .anonymousClass) +
        objects.countP (·.kind = .singletonClass) +
        objects.countP (·.kind = .uninitializedClass) =
      objects.countP HeapObject.isClass := by
  induction objects with
  | nil => rfl
  | cons object rest ih =>
      simp only [List.countP_cons]
      rcases object.kind_cases with ⟨isClass, kind | kind | kind | kind⟩ | ⟨isClass, kind | kind⟩
      all_goals grind

/-- What is no class is an instance or a text. -/
theorem countP_kinds (objects : List HeapObject) :
    objects.countP HeapObject.isClass + objects.countP (·.kind = .plain) +
        objects.countP (·.kind = .text) = objects.length := by
  induction objects with
  | nil => rfl
  | cons object rest ih =>
      simp only [List.countP_cons, List.length_cons]
      rcases object.kind_cases with ⟨isClass, kind | kind | kind | kind⟩ | ⟨isClass, kind | kind⟩
      all_goals grind

/-- The sizes of all objects, summed up by their parts. -/
theorem foldr_size (objects : List HeapObject) :
    objects.foldr (fun object total => object.size + total) 0 =
      32 * objects.length + 88 * objects.countP HeapObject.isClass +
        ((objects.filterMap HeapObject.content?).map String.utf8ByteSize).sum := by
  induction objects with
  | nil => rfl
  | cons object rest ih =>
      rw [List.foldr_cons, ih, List.countP_cons, List.length_cons, List.filterMap_cons]
      cases object with
      | classRecord record =>
          simp only [HeapObject.size, HeapObject.content?]
          rw [if_pos (show (HeapObject.classRecord record).isClass from rfl)]
          omega
      | plain header =>
          simp only [HeapObject.size, HeapObject.content?]
          rw [if_neg (show ¬ (HeapObject.plain header).isClass from nofun)]
          omega
      | text content =>
          simp only [HeapObject.size, HeapObject.content?, List.map_cons, List.sum_cons]
          rw [if_neg (show ¬ (HeapObject.text content).isClass from nofun)]
          omega

end Kinds

namespace Heap

variable {heap : Heap} {builtins : Builtins} {id text singleton : ObjectId}

theorem mem_having_hasSingleton :
    id ∈ heap.having HeapObject.hasSingleton ↔
      ∃ singleton, heap.Has id (HeapObject.HasSingleton singleton) := by
  rw [mem_having]
  constructor
  · rintro ⟨object, stored, has⟩
    obtain ⟨singleton, given⟩ := Option.isSome_iff_exists.mp has
    obtain ⟨header, isHeader, given⟩ := Option.bind_eq_some_iff.mp given
    exact ⟨singleton, object, stored, header, isHeader, given⟩
  · rintro ⟨singleton, object, stored, header, isHeader, given⟩
    refine ⟨object, stored, Option.isSome_iff_exists.mpr ⟨singleton, ?_⟩⟩
    exact Option.bind_eq_some_iff.mpr ⟨header, isHeader, given⟩

theorem mem_having_hasName :
    id ∈ heap.having HeapObject.hasName ↔ ∃ text, heap.Has id (HeapObject.HasName text) := by
  rw [mem_having]
  constructor
  · rintro ⟨object, stored, has⟩
    obtain ⟨text, given⟩ := Option.isSome_iff_exists.mp has
    obtain ⟨record, isClass, given⟩ := Option.bind_eq_some_iff.mp given
    exact ⟨text, object, stored, record, HeapObject.eq_of_classRecord? isClass, given⟩
  · rintro ⟨text, _, stored, record, rfl, given⟩
    exact ⟨_, stored, Option.isSome_iff_exists.mpr ⟨text, given⟩⟩

theorem mem_having_text : id ∈ heap.having (·.kind = .text) ↔ heap.Has id HeapObject.IsText := by
  rw [mem_having]
  refine exists_congr fun object => and_congr_right fun _ => ?_
  cases object with
  | classRecord record =>
      rcases record.kind_cases with kind | kind | kind | kind <;>
        simp [HeapObject.kind, kind, HeapObject.IsText]
  | plain header => simp [HeapObject.kind, HeapObject.IsText]
  | text content => simp [HeapObject.kind, HeapObject.IsText]

theorem mem_having_singletonClass :
    id ∈ heap.having (·.kind = .singletonClass) ↔
      ∃ record, heap.get? id = some (.classRecord record) ∧ record.isSingleton := by
  rw [mem_having]
  constructor
  · rintro ⟨object, stored, kind⟩
    cases object with
    | classRecord record =>
        exact ⟨record, stored, record.kind_eq_singletonClass.mp (of_decide_eq_true kind)⟩
    | plain header => simp [HeapObject.kind] at kind
    | text content => simp [HeapObject.kind] at kind
  · rintro ⟨record, stored, flagged⟩
    exact ⟨_, stored, decide_eq_true (record.kind_eq_singletonClass.mpr flagged)⟩

theorem Has.hasSingleton_unique {other : ObjectId}
    (has : heap.Has id (HeapObject.HasSingleton singleton))
    (has' : heap.Has id (HeapObject.HasSingleton other)) : singleton = other := by
  obtain ⟨object, stored, header, isHeader, given⟩ := has
  obtain ⟨header', isHeader', given'⟩ := has'.of_get? stored
  cases isHeader.symm.trans isHeader'
  exact Option.some.inj (given.symm.trans given')

theorem Has.hasName_unique {other : ObjectId} (has : heap.Has id (HeapObject.HasName text))
    (has' : heap.Has id (HeapObject.HasName other)) : text = other := by
  obtain ⟨_, stored, record, rfl, given⟩ := has
  obtain ⟨_, ⟨⟩, given'⟩ := has'.of_get? stored
  exact Option.some.inj (given.symm.trans given')

/-- Singleton classes and the objects that have one are paired off. -/
theorem WellFormed.card_singletonClass (wf : heap.WellFormed builtins) :
    (heap.having (·.kind = .singletonClass)).card = (heap.having HeapObject.hasSingleton).card := by
  apply Nat.le_antisymm
  · refine Finset.card_le_card_of_forall_subsingleton
      (fun mirror id => heap.Has id (HeapObject.HasSingleton mirror)) ?_ ?_
    · intro mirror mem
      obtain ⟨record, stored, flagged⟩ := mem_having_singletonClass.mp mem
      obtain ⟨object, _, has⟩ := wf.exists_attached stored flagged
      exact ⟨object, mem_having_hasSingleton.mpr ⟨mirror, has⟩, has⟩
    · rintro id _ first ⟨_, has⟩ second ⟨_, has'⟩
      exact has.hasSingleton_unique has'
  · refine Finset.card_le_card_of_forall_subsingleton
      (fun id mirror => heap.Has id (HeapObject.HasSingleton mirror)) ?_ ?_
    · intro id mem
      obtain ⟨mirror, has⟩ := mem_having_hasSingleton.mp mem
      obtain ⟨record, stored, flagged, _⟩ := wf.has_singleton_iff.mp has
      exact ⟨mirror, mem_having_singletonClass.mpr ⟨record, stored, flagged⟩, has⟩
    · rintro mirror _ first ⟨_, has⟩ second ⟨_, has'⟩
      exact wf.eq_of_has_singleton has has'

/-- No text is the name of two classes. -/
theorem WellFormed.card_hasName_le (wf : heap.WellFormed builtins) :
    (heap.having HeapObject.hasName).card ≤ (heap.having (·.kind = .text)).card := by
  refine Finset.card_le_card_of_forall_subsingleton
    (fun id text => heap.Has id (HeapObject.HasName text)) ?_ ?_
  · intro id mem
    obtain ⟨text, has⟩ := mem_having_hasName.mp mem
    refine ⟨text, ?_, has⟩
    obtain ⟨_, stored, record, rfl, given⟩ := has
    exact mem_having_text.mpr (((wf.sound stored).classRecord record rfl).name text given)
  · rintro text _ first ⟨_, has⟩ second ⟨_, has'⟩
    obtain ⟨_, stored, record, rfl, given⟩ := has
    obtain ⟨_, stored', record', rfl, given'⟩ := has'
    exact wf.names stored stored' given given'

/-- A text is referred to as a name and as nothing else. -/
theorem WellFormed.hasName_of_refersTo (wf : heap.WellFormed builtins) {object : HeapObject}
    (stored : heap.get? id = some object) (refers : object.RefersTo text)
    (textual : heap.Has text HeapObject.IsText) : object.HasName text := by
  obtain ⟨content, found⟩ := textual.exists_text
  -- every other reference leads to a class or to an object with a header
  have apart : ¬ heap.Has text HeapObject.IsInitialized := fun has => has.of_get? found
  cases object with
  | classRecord record =>
      have sound := (wf.sound stored).classRecord record rfl
      rcases refers with rfl | given | next | attached | given
      · exact absurd ((wf.sound stored).header _ rfl).owner apart
      · exact absurd (wf.isInitialized_singleton stored rfl given) apart
      · obtain ⟨_, lineage⟩ := wf.exists_lineage_above stored next
        exact absurd lineage.isInitialized apart
      · obtain ⟨header, isHeader, _⟩ := (sound.attached text attached).of_get? found
        cases isHeader
      · exact ⟨record, rfl, given⟩
  | plain header =>
      rcases refers with rfl | given
      · exact absurd ((wf.sound stored).header _ rfl).owner apart
      · exact absurd (wf.isInitialized_singleton stored rfl given) apart
  | text content => cases refers

/-- A text that survives a collection, and was no root of it, is the name of a class that
survives. -/
theorem WellFormed.exists_hasName_collect (wf : heap.WellFormed builtins) {roots : List ObjectId}
    (others : ∀ id ∈ roots, ¬ heap.Has id HeapObject.IsText)
    (survives : (heap.collect roots).2.Has text HeapObject.IsText) :
    ∃ id, (heap.collect roots).2.Has id (HeapObject.HasName text) := by
  obtain ⟨content, stored, textual⟩ := survives
  obtain ⟨reached, stored⟩ := get?_collect_eq_some_iff.mp stored
  cases reached with
  | root mem _ => exact absurd ⟨content, stored, textual⟩ (others text mem)
  | @step id _ object reached source refers _ =>
      have named := wf.hasName_of_refersTo source refers ⟨content, stored, textual⟩
      exact ⟨id, object, get?_collect_eq_some_iff.mpr ⟨reached, source⟩, named⟩

/-- After such a collection there are as many texts as classes with a name. -/
theorem WellFormed.card_text_collect (wf : heap.WellFormed builtins) {roots : List ObjectId}
    (standing : ∀ id ∈ builtins.toList ++ heap.pinned, id ∈ roots)
    (others : ∀ id ∈ roots, ¬ heap.Has id HeapObject.IsText) :
    ((heap.collect roots).2.having (·.kind = .text)).card =
      ((heap.collect roots).2.having HeapObject.hasName).card := by
  apply Nat.le_antisymm
  · refine Finset.card_le_card_of_forall_subsingleton
      (fun text id => (heap.collect roots).2.Has id (HeapObject.HasName text)) ?_ ?_
    · intro text mem
      obtain ⟨id, named⟩ := wf.exists_hasName_collect others (mem_having_text.mp mem)
      exact ⟨id, mem_having_hasName.mpr ⟨text, named⟩, named⟩
    · rintro id _ first ⟨_, has⟩ second ⟨_, has'⟩
      exact has.hasName_unique has'
  · exact (wf.collect standing).card_hasName_le

/-- The figures of a heap agree with the objects that it holds and with each other. -/
structure Accounted (heap : Heap) : Prop where
  /-- The four kinds of classes are all the classes. -/
  classes : heap.census.named + heap.census.anonymous + heap.census.singleton +
    heap.census.uninitialized = (heap.having HeapObject.isClass).card
  /-- There are as many singleton classes as objects that have one. -/
  singleton : heap.census.singleton = (heap.having HeapObject.hasSingleton).card
  total : heap.census.classes + heap.census.plain + heap.census.texts = heap.liveCount
  texts : heap.census.texts = (heap.having (·.kind = .text)).card
  /-- There are no more names than texts. -/
  names : (heap.having HeapObject.hasName).card ≤ heap.census.texts
  slots : heap.census.total + heap.census.vacant = heap.census.slots
  /-- A pinned id is counted once, however many pins are on it. -/
  pinned : heap.census.pinned = heap.pinned.toFinset.card
  pinnedIds : ∀ id, id ∈ heap.pinned ↔ 0 < heap.pinCount id
  /-- No more objects are pinned than there are. -/
  pinnedTotal : heap.census.pinned ≤ heap.census.total
  bytes : heap.census.bytes = 32 * heap.liveCount + 88 * (heap.having HeapObject.isClass).card +
    (heap.contents.map String.utf8ByteSize).sum

theorem census_total (heap : Heap) : heap.census.total = heap.liveCount := by
  rw [← length_objects, ← countP_kinds, ← countP_classes]
  rfl

theorem census_pinned (heap : Heap) : heap.census.pinned = heap.pinned.toFinset.card := by
  have sorted : heap.pinned.Perm heap.pins.ids := List.mergeSort_perm _ _
  have distinct : heap.pinned.Nodup := sorted.nodup_iff.mpr heap.pins.distinct
  rw [List.toFinset_card_of_nodup distinct, sorted.length_eq]
  rfl

theorem WellFormed.accounted (wf : heap.WellFormed builtins) : heap.Accounted where
  classes := by
    rw [← countP_objects, ← countP_classes]
    rfl
  singleton := by
    rw [← wf.card_singletonClass, ← countP_objects]
    rfl
  total := heap.census_total
  texts := heap.countP_objects _
  names := wf.card_hasName_le.trans_eq (heap.countP_objects _).symm
  slots := by
    rw [census_total]
    exact wf.tidy.slotCount_eq.symm
  pinned := heap.census_pinned
  pinnedIds := fun _ => mem_pinned
  pinnedTotal := by
    have live : ∀ id ∈ heap.pinned.toFinset, id ∈ heap.liveIds.toFinset := by
      intro id mem
      have pinned := mem_pinned.mp (List.mem_toFinset.mp mem)
      exact List.mem_toFinset.mpr (mem_liveIds.mpr (wf.pinned pinned))
    calc
      heap.census.pinned = heap.pinned.toFinset.card := heap.census_pinned
      _ ≤ heap.liveIds.toFinset.card := Finset.card_le_card live
      _ = heap.liveIds.length := List.toFinset_card_of_nodup (nodup_liveIds heap)
      _ = heap.liveCount := length_liveIds heap
      _ = heap.census.total := heap.census_total.symm
  bytes := by
    rw [contents_eq, ← countP_objects, ← length_objects]
    exact foldr_size heap.objects

end Heap

/-- The statistics that are answered show the figures of the heap and leave the image as it is. -/
theorem Session.Call.shownBy_census [ReentrantMutex] (image : Image) : ∃ text,
    perform (.survey .census) image = .ok (.text text) image ∧
      image.heap.census.ShownBy text :=
  ⟨_, ImageM.locked_view_apply _ image, image.heap.census.shownBy_report⟩

/-- In every reachable image the statistics that are answered show the figures of its census, and
these agree with the objects that are there and with each other: each kind is counted once,
singleton classes are as many as the objects that have one, no more classes have names than there
are texts, the slots are those in use and the vacant ones, the pinned ids are counted once and are
no more than the objects, and the bytes are those of all objects, classes and texts. After a
collection that has no text among its pinned objects and given roots, the statistics count exactly
as many texts as there are classes with a name. -/
theorem Reached.census_consistent [ReentrantMutex] {settings : Settings}
    {calls : List (Call ObjectId)} {image : Image} (reached : Reached settings calls image) :
    (∃ text, Call.perform (.survey .census) image = .ok (.text text) image ∧
        image.heap.census.ShownBy text) ∧
      image.heap.Accounted ∧
      ∀ call roots, Call.collection? image call = some roots →
        (∀ id ∈ image.heap.pinned ++ roots, ¬ image.heap.Has id HeapObject.IsText) →
        (∃ text, Call.perform (.survey .census) (image.afterCalls [call]) =
            .ok (.text text) (image.afterCalls [call]) ∧
          (image.afterCalls [call]).heap.census.ShownBy text) ∧
        (image.afterCalls [call]).heap.census.texts =
          ((image.afterCalls [call]).heap.having HeapObject.hasName).card := by
  have wf := reached.wellFormed
  refine ⟨Call.shownBy_census image, wf.accounted, fun call roots collects others =>
    ⟨Call.shownBy_census _, ?_⟩⟩
  have unheld : ∀ id ∈ image.standingRoots ++ roots, ¬ image.heap.Has id HeapObject.IsText := by
    intro id mem
    rw [Image.standingRoots, List.append_assoc] at mem
    rcases List.mem_append.mp mem with builtin | other
    · intro textual
      obtain ⟨content, stored⟩ := textual.exists_text
      cases (wf.builtins id builtin).of_get? stored
    · exact others id other
  have standing : ∀ id ∈ image.builtins.toList ++ image.heap.pinned,
      id ∈ image.standingRoots ++ roots := fun id mem => List.mem_append_left roots mem
  rw [(reached.afterCalls [call]).wellFormed.accounted.texts, Call.heap_of_collection collects]
  exact wf.card_text_collect standing unheld

/-- The case of two classes with names and of a pinned instance of the first one, in slot 17. -/
theorem Reached.census_consistent_pin : ∃ image,
    Reached .standard
        [.subclass 5 "A" none, .subclass 5 "B" none, .newObject 11, .pin 17] image ∧
      (∃ text, Call.perform (.survey .census) image = .ok (.text text) image ∧
        ["Strings:", "6"] ∈ Text.wordsByLine text ∧ ["Pinned:", "1"] ∈ Text.wordsByLine text) ∧
      image.heap.pinned = [17] ∧
      (image.heap.having HeapObject.hasSingleton).card = 5 ∧
      (image.heap.having (·.kind = .text)).card = 6 ∧
      (image.afterCalls [.collect []]).heap.census.texts =
        ((image.afterCalls [.collect []]).heap.having HeapObject.hasName).card := by
  let calls : List (Call ObjectId) :=
    [.subclass 5 "A" none, .subclass 5 "B" none, .newObject 11, .pin 17]
  let image := (Image.first .standard).afterCalls calls
  have reached : Reached .standard calls image := .afterFirst .standard calls
  have pinned : image.heap.pinned = [17] := by decide +kernel
  have plain : image.heap.get? 17 = some (.plain (.fresh .object 11)) := by decide +kernel
  have census : image.heap.census.singleton = 5 ∧ image.heap.census.texts = 6 := by decide +kernel
  obtain ⟨⟨text, answered, shown⟩, accounted, after⟩ := Reached.census_consistent reached
  have others : ∀ id ∈ image.heap.pinned ++ [], ¬ image.heap.Has id HeapObject.IsText := by
    intro id mem
    rw [pinned, List.append_nil, List.mem_singleton] at mem
    intro textual
    cases (mem ▸ textual : image.heap.Has 17 HeapObject.IsText).of_get? plain
  have figures : ["Strings:", "6"] ∈ image.heap.census.rows ∧
      ["Pinned:", "1"] ∈ image.heap.census.rows := by decide +kernel
  exact ⟨image, reached, ⟨text, answered, shown ▸ figures⟩, pinned,
    accounted.singleton ▸ census.1, accounted.texts ▸ census.2,
    (after (.collect []) [] rfl others).2⟩

end Metamodel
