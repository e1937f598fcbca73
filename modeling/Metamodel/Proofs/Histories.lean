import Mathlib.Data.List.Chain
import Metamodel.CountingMutex
import Metamodel.Proofs.Frames

/-!
# Histories of objects

What becomes of one object in the course of a run, for as long as it is not collected. Step by
step an object can only evolve, so it is at any time what every earlier state of it may become:
what is written once stays as it is. A part of an object that can be written once changes at most
once in the whole history.
-/

namespace Metamodel

open Session

namespace HeapObject

variable {α : Type}

/-- Whether a class is initialized. -/
def initialized? (object : HeapObject) : Option Bool :=
  object.classRecord?.map ClassRecord.initialized

/-- The superclass of a class. -/
def superclass? (object : HeapObject) : Option ObjectId :=
  object.classRecord?.bind ClassRecord.superclass

/-- The tag that a class gives to instances. -/
def instanceTag? (object : HeapObject) : Option TypeTag :=
  object.classRecord?.map ClassRecord.instanceTag

/-- The singleton class of a class or an instance. -/
def singleton? (object : HeapObject) : Option ObjectId :=
  object.header?.bind Header.singleton

/-- How often a part of an object changes from one state to the next. -/
def changes [DecidableEq α] (part : HeapObject → α) : List HeapObject → Nat
  | old :: new :: later =>
      (if part old = part new then 0 else 1) + changes part (new :: later)
  | _ => 0

/-- A part of an object that is settled when it has changed. -/
def ChangesOnce (part : HeapObject → α) : Prop :=
  ∀ first second third, Evolves first second → Evolves second third →
    part first = part second ∨ part second = part third

theorem changes_eq_zero [DecidableEq α] {part : HeapObject → α} {first : HeapObject}
    {later : List HeapObject} (same : ∀ object ∈ later, part first = part object) :
    changes part (first :: later) = 0 := by
  induction later generalizing first with
  | nil => rfl
  | cons second rest ih =>
      have step := same second List.mem_cons_self
      rw [changes, if_pos step, Nat.zero_add]
      apply ih
      intro object mem
      exact step.symm.trans (same object (List.mem_cons_of_mem _ mem))

/-- Such a part changes at most once in a history. -/
theorem ChangesOnce.changes_le_one [DecidableEq α] {part : HeapObject → α}
    (once : ChangesOnce part) {history : List HeapObject} (evolving : history.Pairwise Evolves) :
    changes part history ≤ 1 := by
  induction history with
  | nil => exact Nat.zero_le _
  | cons first later ih =>
      cases later with
      | nil => exact Nat.zero_le _
      | cons second rest =>
          obtain ⟨fromFirst, evolving⟩ := List.pairwise_cons.mp evolving
          rw [changes]
          split
          · rw [Nat.zero_add]
            exact ih evolving
          · next changed =>
              -- the first change settles the part for good
              have settled : changes part (second :: rest) = 0 := by
                apply changes_eq_zero
                intro third mem
                have step := fromFirst second List.mem_cons_self
                have further := (List.pairwise_cons.mp evolving).1 third mem
                exact (once first second third step further).resolve_left changed
              rw [settled]

/-- What is kept once it is there changes at most from absent to present. -/
theorem changesOnce_of_kept {part : HeapObject → Option α}
    (kept : ∀ old new value, Evolves old new → part old = some value → part new = some value) :
    ChangesOnce part := by
  intro first second third step further
  cases had : part first with
  | some value => exact .inl (kept _ _ _ step had).symm
  | none =>
      cases has : part second with
      | none => exact .inl rfl
      | some value => exact .inr (kept _ _ _ further has).symm

theorem changesOnce_singleton : ChangesOnce singleton? := by
  apply changesOnce_of_kept
  intro old new value evolves given
  cases evolves with
  | classRecord evolves => exact evolves.header.singleton value given
  | plain evolves => exact evolves.singleton value given
  | text content => exact given

theorem changesOnce_name : ChangesOnce Heap.nameOf := by
  apply changesOnce_of_kept
  intro old new value evolves given
  cases evolves with
  | classRecord evolves => exact evolves.name value given
  | plain evolves => exact given
  | text content => exact given

/-- A part of a class that is settled in the step that initializes it. -/
theorem changesOnce_of_settled {part : HeapObject → α}
    (settled : ∀ old new : ClassRecord, old.Evolves new → new.initialized = old.initialized →
      part (.classRecord old) = part (.classRecord new))
    (other : ∀ old new, Evolves old new → old.classRecord? = none → part old = part new) :
    ChangesOnce part := by
  intro first second third step further
  cases step with
  | @classRecord first second step =>
      cases further with
      | @classRecord _ third further =>
          by_cases same : second.initialized = first.initialized
          · exact .inl (settled _ _ step same)
          · have started : second.initialized := by
              cases raw : first.initialized <;> simp_all [step.initialized]
            exact .inr (settled _ _ further ((further.initialized started).trans started.symm))
  | plain step => exact .inl (other _ _ (.plain step) rfl)
  | text content => exact .inl rfl

theorem changesOnce_initialized : ChangesOnce initialized? := by
  apply changesOnce_of_settled
  · intro old new evolves same
    exact congrArg some same.symm
  · intro old new evolves noClass
    cases evolves with
    | classRecord _ => cases noClass
    | plain _ => rfl
    | text _ => rfl

theorem changesOnce_superclass : ChangesOnce superclass? := by
  apply changesOnce_of_settled
  · intro old new evolves same
    exact (evolves.settled same).1.symm
  · intro old new evolves noClass
    cases evolves with
    | classRecord _ => cases noClass
    | plain _ => rfl
    | text _ => rfl

theorem changesOnce_instanceTag : ChangesOnce instanceTag? := by
  apply changesOnce_of_settled
  · intro old new evolves same
    exact congrArg some (evolves.settled same).2.symm
  · intro old new evolves noClass
    cases evolves with
    | classRecord _ => cases noClass
    | plain _ => rfl
    | text _ => rfl

instance : Trans Evolves Evolves Evolves := ⟨Evolves.trans⟩

end HeapObject

/-- One step of a run: a call, whatever it is answered, or a change of the lock or the journal. -/
inductive Image.Step [ReentrantMutex] (image : Image) : Image → Prop
  | call (call : Call ObjectId) : Step image (image.afterCalls [call])
  | aside (lock : StructureLock) (journal : Array Event) :
      Step image { image with lock, journal }

section Run

variable [ReentrantMutex] {settings : Settings} {calls : List (Call ObjectId)} {image after : Image}
  {id : ObjectId}

/-- A step leads from a reachable image to a reachable one. -/
theorem Reached.step (reached : Reached settings calls image) (step : image.Step after) :
    ∃ calls, Reached settings calls after := by
  cases step with
  | call call => exact ⟨_, reached.afterCalls [call]⟩
  | aside lock journal => exact ⟨_, reached.aside lock journal⟩

/-- No call puts one object in the place of another, be it answered or refused. -/
theorem Session.Call.continues (wf : image.heap.WellFormed image.builtins)
    (call : Call ObjectId) : image.heap.Continues (image.afterCalls [call]).heap := by
  rw [Image.afterCalls]
  cases performed : call.perform image with
  | ok value after => exact continues_of_ok wf performed
  | error fault after =>
      rw [eq_of_error wf performed]
      exact (Heap.Grows.refl _).continues

theorem Image.Step.continues (step : image.Step after)
    (wf : image.heap.WellFormed image.builtins) : image.heap.Continues after.heap := by
  cases step with
  | call call => exact call.continues wf
  | aside lock journal => exact (Heap.Grows.refl _).continues

/-- An object that is there at every step of a run evolves from each step to the next. -/
theorem Reached.isChain_evolves (reached : Reached settings calls image) {images : List Image}
    (run : (image :: images).IsChain Image.Step) {history : List HeapObject}
    (alive : (image :: images).map (·.heap.get? id) = history.map some) :
    history.IsChain HeapObject.Evolves := by
  induction images generalizing image calls history with
  | nil =>
      obtain ⟨old, rfl⟩ : ∃ old, history = [old] := by
        cases history with
        | nil => cases alive
        | cons old rest =>
            rw [List.map_eq_nil_iff.mp (List.cons.inj alive).2.symm]
            exact ⟨old, rfl⟩
      exact .singleton old
  | cons after images ih =>
      obtain ⟨step, run⟩ := List.isChain_cons_cons.mp run
      cases history with
      | nil => cases alive
      | cons old history =>
          obtain ⟨stored, alive⟩ := List.cons.inj alive
          obtain ⟨calls, reached'⟩ := reached.step step
          have later := ih reached' run alive
          cases history with
          | nil => cases alive
          | cons new rest =>
              have found := (List.cons.inj alive).1
              have evolves := (step.continues reached.wellFormed).evolves stored found
              exact .cons_cons evolves later

end Run

/-- As long as an object is not collected, whatever steps are made, it keeps its kind, its tag,
its owner and its text, and a class keeps whether it is a singleton class and what it is attached
to. A class is initialized at most once and never loses that again, and its superclass and the tag
of its instances change in that step alone; a singleton class and a name are given at most once
and then kept. So an initialized class is not altered by declaring it once more, by deriving or
declaring other classes, by naming when it has a name, or by asking for singleton classes when it
has one. -/
theorem Reached.write_once [ReentrantMutex] {settings : Settings} {calls : List (Call ObjectId)}
    {image : Image} (reached : Reached settings calls image) :
    (∀ images id history, (image :: images).IsChain Image.Step →
      (image :: images).map (·.heap.get? id) = history.map some →
      history.Pairwise HeapObject.Evolves ∧
        HeapObject.changes HeapObject.initialized? history ≤ 1 ∧
        HeapObject.changes HeapObject.superclass? history ≤ 1 ∧
        HeapObject.changes HeapObject.instanceTag? history ≤ 1 ∧
        HeapObject.changes HeapObject.singleton? history ≤ 1 ∧
        HeapObject.changes Heap.nameOf history ≤ 1) ∧
      ∀ id record, image.heap.get? id = some (.classRecord record) → record.initialized →
        (∀ declaration, (image.afterCalls [.declare declaration]).heap.get? id =
          some (.classRecord record)) ∧
        (∀ receiver name tag, (image.afterCalls [.subclass receiver name tag]).heap.get? id =
          some (.classRecord record)) ∧
        (∀ target name, record.name ≠ none →
          (image.afterCalls [.assignName target name]).heap.get? id =
            some (.classRecord record)) ∧
        ∀ object, record.singleton ≠ none →
          (image.afterCalls [.singletonClass object]).heap.get? id =
            some (.classRecord record) := by
  have wf := reached.wellFormed
  constructor
  · intro images id history run alive
    have evolving := (reached.isChain_evolves run alive).pairwise
    exact ⟨evolving, HeapObject.changesOnce_initialized.changes_le_one evolving,
      HeapObject.changesOnce_superclass.changes_le_one evolving,
      HeapObject.changesOnce_instanceTag.changes_le_one evolving,
      HeapObject.changesOnce_singleton.changes_le_one evolving,
      HeapObject.changesOnce_name.changes_le_one evolving⟩
  · intro id record stored started
    refine ⟨?_, ?_, ?_, ?_⟩
    · intro declaration
      apply Call.kept wf _ stored
      cases declaration with
      | initializeClass declared superclass => exact fun may => may.2 started
      | newClass superclass => exact fun may => may
    · intro receiver name tag
      exact Call.kept wf _ stored fun may => may
    · intro target name named
      exact Call.kept wf _ stored fun may => named may.2
    · intro object given
      obtain ⟨singleton, has⟩ := Option.ne_none_iff_exists'.mp given
      exact Call.kept wf _ stored fun may => may singleton ⟨_, rfl, has⟩

/-- The case of a class in slot 11 that is allocated, then initialized and named. Its superclass
changes once, when it is initialized, and another name does not alter it. -/
theorem Reached.write_once_allocateClass : ∃ image linked named record,
    Reached .standard [.allocateClass] image ∧
      linked = image.afterCalls [.declare (.initializeClass 11 none)] ∧
      named = linked.afterCalls [.assignName 11 "A"] ∧
      (image :: [linked, named]).map (·.heap.get? 11) =
        [some (.classRecord (.fresh 0)),
          some (.classRecord { record with name := none }), some (.classRecord record)] ∧
      HeapObject.changes HeapObject.superclass? [.classRecord (.fresh 0),
        .classRecord { record with name := none }, .classRecord record] ≤ 1 ∧
      record.superclass = some 3 ∧ record.name ≠ none ∧
      (named.afterCalls [.assignName 11 "B"]).heap.get? 11 = some (.classRecord record) := by
  have reached := Reached.afterFirst .standard [.allocateClass]
  let image := (Image.first .standard).afterCalls [.allocateClass]
  let linked := image.afterCalls [.declare (.initializeClass 11 none)]
  let named := linked.afterCalls [.assignName 11 "A"]
  let record : ClassRecord := { ClassRecord.fresh 0 with
    superclass := some 3, initialized := true, singleton := some 12, name := some 13 }
  let history : List HeapObject :=
    [ClassRecord.fresh 0, { record with name := none }, record].map .classRecord
  have run : (image :: [linked, named]).IsChain Image.Step :=
    .cons_cons (.call _) (.cons_cons (.call _) (.singleton _))
  have alive : (image :: [linked, named]).map (·.heap.get? 11) = history.map some := by
    decide +kernel
  have stored : named.heap.get? 11 = some (.classRecord record) := by decide +kernel
  obtain ⟨_, _, once, _⟩ := (Reached.write_once reached).1 _ 11 history run alive
  have reached' := (reached.afterCalls [.declare (.initializeClass 11 none)]).afterCalls
    [.assignName 11 "A"]
  obtain ⟨_, _, naming, _⟩ := (Reached.write_once reached').2 11 record stored rfl
  exact ⟨image, linked, named, record, reached, rfl, rfl, alive, once, rfl, nofun,
    naming 11 "B" nofun⟩

end Metamodel
