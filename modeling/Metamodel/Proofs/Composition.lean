import Metamodel.Proofs.Frames

/-!
# How operations are composed

Every operation on an image that is neither a collection nor about pins is composed of a few
primitive steps: a question to the heap, an allocation, a change in place, an event, a refusal, and
the lock around some of them. Questions read the slots of the heap and nothing else of it. What the
primitive steps do, and composition keeps, is therefore done by all of these operations.
-/

namespace Metamodel

namespace Heap

variable {α β : Type}

/-- Something that is read off the slots of a heap alone. -/
def FromSlots (look : Heap → α) : Prop :=
  ∀ heap other : Heap, heap.slots = other.slots → look heap = look other

namespace FromSlots

protected theorem bind {first : Heap → Except Fault α} {rest : Heap → α → Except Fault β}
    (firstly : FromSlots first) (secondly : ∀ value, FromSlots fun heap => rest heap value) :
    FromSlots fun heap => first heap >>= rest heap := by
  intro heap other same
  change first heap >>= rest heap = first other >>= rest other
  rw [firstly heap other same]
  exact congrArg _ (funext fun value => secondly value heap other same)

protected theorem const (value : α) : FromSlots fun _ => value := fun _ _ _ => rfl

protected theorem slotCount : FromSlots slotCount := fun _ _ same => congrArg Array.size same

protected theorem get? (id : ObjectId) : FromSlots (·.get? id) :=
  fun _ _ same => congrArg (fun slots : Array (Option HeapObject) => slots[id]?.join) same

protected theorem contains (id : ObjectId) : FromSlots (·.contains id) :=
  fun heap other same => congrArg Option.isSome (FromSlots.get? id heap other same)

protected theorem find (id : ObjectId) : FromSlots (·.find id) := by
  intro heap other same
  have view : heap.get? id = other.get? id := FromSlots.get? id heap other same
  simp only [Heap.find, view]

protected theorem findHeader (id : ObjectId) : FromSlots (·.findHeader id) := by
  refine .bind (.find id) fun object => ?_
  split
  · exact .const _
  · exact .const _

protected theorem findText (id : ObjectId) : FromSlots (·.findText id) := by
  refine .bind (.find id) fun object => ?_
  split
  · exact .const _
  · exact .const _

/-- A display name, by induction on the steps that are left. -/
protected theorem displayNameWithin (steps : Nat) (id : ObjectId) :
    FromSlots (·.displayNameWithin steps id) := by
  induction steps generalizing id with
  | zero => exact .const _
  | succ steps ih =>
      refine .bind (.find id) fun object => ?_
      split
      · exact .const _
      · exact .findText _
      · exact .bind (ih _) fun _ => .const _

protected theorem displayName (id : ObjectId) : FromSlots (·.displayName id) := by
  intro heap other same
  change heap.displayNameWithin _ id = other.displayNameWithin _ id
  rw [FromSlots.slotCount heap other same]
  exact FromSlots.displayNameWithin _ id heap other same

protected theorem ownerDisplayName (id : ObjectId) : FromSlots (·.ownerDisplayName id) := by
  refine .bind (.find id) fun object => ?_
  split
  · exact .displayName _
  · exact .const _

protected theorem findClass (id : ObjectId) : FromSlots (·.findClass id) := by
  refine .bind (.find id) fun object => ?_
  split
  · exact .const _
  · exact .bind (.displayName id) fun _ => .const _

protected theorem isClass (id : ObjectId) : FromSlots (·.isClass id) :=
  fun heap other same =>
    congrArg (fun stored : Option HeapObject => (stored.bind HeapObject.classRecord?).isSome)
      (FromSlots.get? id heap other same)

protected theorem className (id : ObjectId) : FromSlots (·.className id) := by
  refine .bind (.findClass id) fun record => ?_
  split
  · exact .bind (.findText _) fun _ => .const _
  · exact .const _

protected theorem backtraceName (id : ObjectId) : FromSlots (·.backtraceName id) := by
  refine .bind (.className id) fun name => .bind (.findClass id) fun record => ?_
  split
  · exact .const _
  · exact .displayName id

/-- A superclass chain, by induction on the steps that are left. -/
protected theorem ancestorsWithin (steps : Nat) (id : ObjectId) :
    FromSlots (·.ancestorsWithin steps id) := by
  induction steps generalizing id with
  | zero => exact .const _
  | succ steps ih =>
      refine .bind (.findClass id) fun record => ?_
      split
      · exact .bind (ih _) fun _ => .const _
      · exact .const _

protected theorem ancestors (id : ObjectId) : FromSlots (·.ancestors id) := by
  intro heap other same
  change heap.ancestorsWithin _ id = other.ancestorsWithin _ id
  rw [FromSlots.slotCount heap other same]
  exact FromSlots.ancestorsWithin _ id heap other same

protected theorem dispatchChain (id : ObjectId) : FromSlots (·.dispatchChain id) :=
  .bind (.findHeader id) fun _ => .ancestors _

end FromSlots

end Heap

namespace ImageM

variable [ReentrantMutex] {α β : Type}

/-- An operation that is composed of primitive steps. -/
inductive Composed : {α : Type} → ImageM α → Prop
  | answer {α : Type} (value : α) : Composed (pure value : ImageM α)
  | refusal {α : Type} (fault : Fault) : Composed (throw fault : ImageM α)
  | ask {α : Type} {query : Heap → Except Fault α} : Heap.FromSlots query → Composed (ask query)
  | view {α : Type} {look : Heap → α} : Heap.FromSlots look → Composed (view look)
  | builtinClasses : Composed builtinClasses
  | allocate (object : HeapObject) : Composed (allocate object)
  | change (id : ObjectId) (edit : HeapObject → HeapObject) : Composed (change id edit)
  | emit (event : Event) : (∀ live freed next, event ≠ .collected live freed next) →
      Composed (emit event)
  | bind {α β : Type} {act : ImageM α} {next : α → ImageM β} : Composed act →
      (∀ value, Composed (next value)) → Composed (act >>= next)
  | map {α β : Type} {act : ImageM α} (f : α → β) : Composed act → Composed (f <$> act)
  | locked {α : Type} {act : ImageM α} : Composed act → Composed (locked act)

namespace Composed

/-- A refusal that depends on a condition. -/
protected theorem refuse {condition : Prop} [Decidable condition] {fault : Fault}
    {next : PUnit → ImageM β} (rest : ∀ passed, Composed (next passed)) :
    Composed (if condition then throw fault >>= next else next ⟨⟩) := by
  split
  · exact .bind (.refusal fault) rest
  · exact rest ⟨⟩

protected theorem editClass (id : ObjectId) (edit : ClassRecord → ClassRecord) :
    Composed (editClass id edit) :=
  .bind (.ask (.findClass id)) fun _ => .change _ _

protected theorem storeName (name : String) : Composed (storeName name) := by
  unfold storeName
  split
  · exact .answer _
  · exact .map _ (.allocate _)

protected theorem joinUnder (superclass subclass : ObjectId) (name : String)
    (tag : Option TypeTag) : Composed (joinUnder superclass subclass name tag) := by
  refine .bind (.ask (.findClass superclass)) fun _ => ?_
  refine .bind (.ask (.findClass subclass)) fun _ => ?_
  exact .bind (.storeName _) fun _ => .editClass _ _

protected theorem attachSingleton (object singleton : ObjectId) :
    Composed (attachSingleton object singleton) :=
  .bind (.ask (.findHeader object)) fun _ => .bind (.editClass _ _) fun _ => .change _ _

protected theorem deriveSingleton (superclass subclass : ObjectId) :
    Composed (deriveSingleton superclass subclass) := by
  refine .bind (.ask (.findClass superclass)) fun record => ?_
  split
  · exact .answer _
  · next above _ =>
      refine .bind (.ask (.findClass above)) fun _ => .bind (.allocate _) fun singleton => ?_
      refine .bind (.locked (.joinUnder _ _ _ _)) fun _ => ?_
      exact .bind (.attachSingleton _ _) fun _ => .emit _ nofun

protected theorem link (superclass subclass : ObjectId) (name : String) (tag : Option TypeTag) :
    Composed (link superclass subclass name tag) :=
  .locked (.bind (.deriveSingleton _ _) fun _ => .joinUnder _ _ _ _)

protected theorem ownerForSubclass (receiver : ObjectId) :
    Composed (ownerForSubclass receiver) := by
  refine .bind (.ask (.findClass receiver)) fun record => .bind .builtinClasses fun builtins => ?_
  exact .refuse fun _ => .refuse fun _ => .refuse fun _ => .answer _

protected theorem tagFromSuperclass (superclass : ObjectId) :
    Composed (tagFromSuperclass superclass) := by
  have admitted : Composed (do
      let record ← ImageM.ask (·.findClass superclass)
      let _ ← ownerForSubclass superclass
      pure record.instanceTag) :=
    .bind (.ask (.findClass _)) fun _ => .bind (.ownerForSubclass _) fun _ => .answer _
  refine .bind (.view (.isClass superclass)) fun isClass => ?_
  split
  · exact .bind (.ask (.ownerDisplayName _)) fun _ => .bind (.refusal _) fun _ => admitted
  · exact admitted

protected theorem subclass (receiver : ObjectId) (name : String) (tag : Option TypeTag) :
    Composed (Image.subclass receiver name tag) := by
  refine .locked (.bind (.ownerForSubclass _) fun owner => .bind (.allocate _) fun id => ?_)
  exact .bind (.link _ _ _ _) fun _ => .bind (.emit _ nofun) fun _ => .answer _

protected theorem allocateClass : Composed Image.allocateClass :=
  .locked (.bind .builtinClasses fun _ => .allocate _)

protected theorem initializeClass (declared : ObjectId) (superclass : Option ObjectId) :
    Composed (Image.initializeClass declared superclass) := by
  refine .locked (.bind (.ask (.findClass declared)) fun record => .refuse fun _ => ?_)
  refine .bind .builtinClasses fun builtins => .bind (.tagFromSuperclass _) fun tag => ?_
  exact .bind (.link _ _ _ _) fun _ => .bind (.emit _ nofun) fun _ => .answer _

protected theorem newClass (superclass : Option ObjectId) :
    Composed (Image.newClass superclass) := by
  refine .locked (.bind .builtinClasses fun builtins => .bind (.tagFromSuperclass _) fun tag => ?_)
  refine .bind .builtinClasses fun _ => .bind (.allocate _) fun declared => ?_
  exact .bind (.link _ _ _ _) fun _ => .bind (.emit _ nofun) fun _ => .answer _

protected theorem declare (declaration : Declaration ObjectId) :
    Composed (Image.declare declaration) := by
  cases declaration with
  | initializeClass declared superclass => exact .initializeClass declared superclass
  | newClass superclass => exact .newClass superclass

protected theorem assignName (target : ObjectId) (name : String) :
    Composed (Image.assignName target name) := by
  refine .locked (.bind (.ask (.findClass target)) fun record => .refuse fun _ => ?_)
  split
  · refine .bind (.storeName _) fun stored => ?_
    split
    · exact .editClass _ _
    · exact .answer _
  · exact .answer _

protected theorem newObject (owner : ObjectId) : Composed (Image.newObject owner) := by
  refine .locked (.bind (.ask (.findClass owner)) fun record => ?_)
  exact .refuse fun _ => .refuse fun _ => .allocate _

protected theorem singletonPlace (object : ObjectId) (header : Header) :
    Composed (singletonPlace object header) := by
  refine .bind (.view (.get? object)) fun stored => ?_
  split
  · exact .answer _
  · refine .refuse fun _ => ?_
    split
    · exact .answer _
    · exact .bind .builtinClasses fun _ => .answer _

protected theorem makeSingleton (object superclass : ObjectId) :
    Composed (makeSingleton object superclass) := by
  refine .bind (.ask (.findClass superclass)) fun record => .bind (.allocate _) fun singleton => ?_
  refine .bind (.link _ _ _ _) fun _ => .bind (.attachSingleton _ _) fun _ => ?_
  exact .bind (.emit _ nofun) fun _ => .answer _

/-- Asking for a singleton class, by induction on the steps that are left. -/
protected theorem singletonClassWithin (steps : Nat) (object : ObjectId) :
    Composed (singletonClassWithin steps object) := by
  induction steps generalizing object with
  | zero => exact .refusal _
  | succ steps ih =>
      refine .locked (.bind (.ask (.findHeader object)) fun header => ?_)
      split
      · exact .answer _
      · refine .bind (.singletonPlace _ _) fun place => ?_
        split
        · exact .makeSingleton _ _
        · exact .bind (ih _) fun _ => .makeSingleton _ _

protected theorem singletonClass (object : ObjectId) : Composed (Image.singletonClass object) :=
  .bind (.view .slotCount) fun _ => .singletonClassWithin _ _

end Composed

/-- The lock is released once, whichever way the operation under it ends. -/
theorem leaves_locked (act : ImageM α) (image : Image) :
    (locked act).leaves image =
      { act.leaves image.held with lock := (act.leaves image.held).lock.release } := by
  unfold leaves locked
  cases act image.held <;> rfl

/-- An operation that leaves a part of the image as it was, be it answered or refused. -/
def Keeps {γ : Type} (part : Image → γ) (act : ImageM α) : Prop :=
  ∀ image : Image, part (act.leaves image) = part image

namespace Keeps

variable {γ : Type} {part : Image → γ} {act : ImageM α}

theorem of_ok (keeps : Keeps part act) {image after : Image} {value : α}
    (answered : act image = .ok value after) : part after = part image := by
  rw [← leaves_of_ok answered]
  exact keeps image

theorem of_error (keeps : Keeps part act) {image after : Image} {fault : Fault}
    (refused : act image = .error fault after) : part after = part image := by
  rw [← leaves_of_error refused]
  exact keeps image

protected theorem ask (query : Heap → Except Fault α) : Keeps part (ask query) := by
  intro image
  unfold leaves ImageM.ask
  cases query image.heap <;> rfl

protected theorem view (look : Heap → α) : Keeps part (view look) := fun _ => rfl

protected theorem bind {next : α → ImageM β} (first : Keeps part act)
    (rest : ∀ value, Keeps part (next value)) : Keeps part (act >>= next) := by
  intro image
  unfold leaves
  rw [bind_apply]
  cases ran : act image with
  | error fault after => exact first.of_error ran
  | ok value after => exact (rest value after).trans (first.of_ok ran)

protected theorem map (f : α → β) (keeps : Keeps part act) : Keeps part (f <$> act) := by
  intro image
  rw [leaves_map]
  exact keeps image

/-- What the steps that change something keep is kept by everything composed of them. -/
theorem of_composed (composed : Composed act)
    (allocate : ∀ object, Keeps part (allocate object))
    (change : ∀ id edit, Keeps part (change id edit))
    (emit : ∀ event, Keeps part (emit event))
    (locked : ∀ {α : Type} {act : ImageM α}, Keeps part act → Keeps part (locked act)) :
    Keeps part act := by
  induction composed with
  | answer value => exact fun _ => rfl
  | refusal fault => exact fun _ => rfl
  | ask _ => exact .ask _
  | view _ => exact .view _
  | builtinClasses => exact fun _ => rfl
  | allocate object => exact allocate object
  | change id edit => exact change id edit
  | emit event _ => exact emit event
  | bind _ _ first rest => exact first.bind rest
  | map f _ ih => exact ih.map f
  | locked _ ih => exact locked ih

end Keeps

end ImageM

namespace Session.Call

variable [ReentrantMutex]

/-- Whether a call is composed of primitive steps: it neither collects nor is about pins, and it
asks nothing. -/
def isComposed {ρ : Type} : Call ρ → Bool
  | .subclass .. | .declare _ | .allocateClass | .newObject _ | .assignName .. | .singletonClass _
  | .builtins => true
  | _ => false

theorem composed_perform {call : Call ObjectId} (composed : call.isComposed) :
    ImageM.Composed call.perform := by
  cases call with
  | subclass receiver name tag => exact .map _ (.subclass receiver name tag)
  | declare declaration => exact .map _ (.declare declaration)
  | allocateClass => exact .map _ .allocateClass
  | newObject owner => exact .map _ (.newObject owner)
  | assignName target name => exact .map _ (.assignName target name)
  | singletonClass object => exact .map _ (.singletonClass object)
  | builtins => exact .map _ .builtinClasses
  | _ => cases composed

end Session.Call

end Metamodel
