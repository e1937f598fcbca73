import Metamodel.CountingMutex
import Metamodel.Proofs.NameForms

/-!
# What a computed name identifies

The name of an instance, of a class without a name and of the singleton classes above them ends in
an id and a row of closing brackets. The id is that of the object at the end of the attached
references, and there is one bracket for each reference and one more. Both can be read off the end
of the name, whatever stands before them, so no two such objects have the same name.
-/

namespace Metamodel

open Session

namespace Text

/-- The number of closing brackets at the end of a text. -/
def closingBrackets (text : String) : Nat :=
  (text.toList.reverse.takeWhile (· == '>')).length

/-- The number that the digits before the closing brackets stand for. -/
def numberAtEnd (text : String) : Nat :=
  let front := text.toList.reverse.dropWhile (· == '>')
  Hexadecimal.value (front.takeWhile Hexadecimal.isDigit).reverse

/-- A text that ends in the written form of an id and a row of closing brackets. -/
def EndsIn (id : ObjectId) (brackets : Nat) (text : String) : Prop :=
  ∃ front, text.toList = front ++ id.text.toList ++ List.replicate brackets '>'

section Row

variable {p : Char → Bool} {row rest : List Char} (all : ∀ c ∈ row, p c)
  (stop : ∀ c ∈ rest.head?, ¬ p c)
include all stop

theorem takeWhile_row : (row ++ rest).takeWhile p = row := by
  rw [List.takeWhile_append_of_pos all]
  cases rest with
  | nil => simp
  | cons c rest => rw [List.takeWhile_cons_of_neg (stop c rfl), List.append_nil]

theorem dropWhile_row : (row ++ rest).dropWhile p = rest := by
  rw [List.dropWhile_append_of_pos all]
  cases rest with
  | nil => rfl
  | cons c rest => rw [List.dropWhile_cons_of_neg (stop c rfl)]

end Row

namespace EndsIn

variable {id : ObjectId} {brackets : Nat} {text : String}

/-- Such a text, read from its end. -/
theorem exists_reverse (ends : EndsIn id brackets text) : ∃ front, text.toList.reverse =
    List.replicate brackets '>' ++ (id.hexDigits.reverse ++ 'x' :: front) := by
  obtain ⟨front, same⟩ := ends
  refine ⟨'0' :: front.reverse, ?_⟩
  rw [same, ObjectId.toList_text]
  simp

theorem isBracket_of_mem {c : Char} (mem : c ∈ List.replicate brackets '>') : c == '>' :=
  beq_iff_eq.mpr (List.eq_of_mem_replicate mem)

/-- A digit or the sign of a hexadecimal numeral precedes the brackets. -/
theorem not_isBracket_of_mem_head? {front : List Char} {c : Char}
    (mem : c ∈ (id.hexDigits.reverse ++ 'x' :: front).head?) : ¬ c == '>' := by
  rintro isBracket
  obtain rfl := beq_iff_eq.mp isBracket
  cases digits : id.hexDigits.reverse with
  | nil => simp [digits] at mem
  | cons digit rest =>
      have isHead : digit = '>' := by simpa [digits] using mem
      have among : digit ∈ id.hexDigits := by
        rw [← List.mem_reverse, digits]
        exact List.mem_cons_self
      have isDigit := ObjectId.isDigit_of_mem_hexDigits among
      rw [isHead] at isDigit
      exact absurd isDigit (by decide)

/-- The brackets are counted from the end on. -/
theorem closingBrackets_eq (ends : EndsIn id brackets text) : closingBrackets text = brackets := by
  obtain ⟨front, same⟩ := ends.exists_reverse
  rw [closingBrackets, same, takeWhile_row (fun _ => isBracket_of_mem)
    (fun _ => not_isBracket_of_mem_head?), List.length_replicate]

/-- The digits are read before the brackets. -/
theorem numberAtEnd_eq (ends : EndsIn id brackets text) : numberAtEnd text = id := by
  obtain ⟨front, same⟩ := ends.exists_reverse
  have digits : ∀ c ∈ id.hexDigits.reverse, Hexadecimal.isDigit c := fun c mem =>
    ObjectId.isDigit_of_mem_hexDigits (List.mem_reverse.mp mem)
  have sign : ∀ c ∈ ('x' :: front).head?, ¬ Hexadecimal.isDigit c := by
    rintro c ⟨⟩
    decide
  simp only [numberAtEnd]
  rw [same, dropWhile_row (fun _ => isBracket_of_mem) (fun _ => not_isBracket_of_mem_head?),
    takeWhile_row digits sign, List.reverse_reverse, ObjectId.value_hexDigits]

end EndsIn

end Text

/-- An object without a name that is attached to no other: an instance or an anonymous class. -/
def HeapObject.IsNameless : HeapObject → Prop
  | .plain _ => True
  | .classRecord record => record.isSingleton = false ∧ record.name = none
  | .text _ => False

namespace Heap

/-- From an object along the attached references to a nameless one, with the number of references
on the way. -/
inductive Descends (heap : Heap) (base : ObjectId) : ObjectId → Nat → Prop
  | base : heap.Has base HeapObject.IsNameless → Descends heap base base 0
  | attached {id object : ObjectId} {record : ClassRecord} {height : Nat} :
      heap.get? id = some (.classRecord record) → record.attached = some object →
      Descends heap base object height → Descends heap base id (height + 1)

/-- The attached references lead from an object to a nameless one. -/
def IsComputed (heap : Heap) (id : ObjectId) : Prop :=
  ∃ base height, heap.Descends base id height

variable {heap : Heap} {builtins : Builtins} {id other base : ObjectId} {height : Nat}

/-- The name of a nameless object ends in its id and a closing bracket. -/
theorem WellFormed.exists_displayName_of_isNameless (wf : heap.WellFormed builtins)
    (named : AnchorNamed builtins heap) (has : heap.Has id HeapObject.IsNameless) :
    ∃ name, heap.displayName id = .ok name ∧ Text.EndsIn id 1 name := by
  obtain ⟨object, stored, nameless⟩ := has
  cases object with
  | classRecord record =>
      obtain ⟨unflagged, anonymous⟩ := nameless
      refine ⟨_, wf.displayName_of_anonymous named stored unflagged anonymous,
        "#<Class:".toList, ?_⟩
      simp [ObjectId.toList_text]
  | plain header =>
      obtain ⟨name, _, shown⟩ := wf.displayName_of_plain named stored
      refine ⟨_, shown, ("#<" ++ name ++ ":").toList, ?_⟩
      simp [ObjectId.toList_text]
  | text content => cases nameless

/-- Each reference on the way puts one more closing bracket at the end of the name. -/
theorem Descends.exists_displayName (wf : heap.WellFormed builtins)
    (named : AnchorNamed builtins heap) (descends : heap.Descends base id height) :
    ∃ name, heap.displayName id = .ok name ∧ Text.EndsIn base (height + 1) name := by
  induction descends with
  | base has => exact wf.exists_displayName_of_isNameless named has
  | @attached id object record height stored attached _ ih =>
      obtain ⟨inner, shown, front, same⟩ := ih
      have flagged : record.isSingleton := by
        rw [((wf.sound stored).classRecord record rfl).flagged, attached]
        rfl
      obtain ⟨object', inner', attached', shown', outer⟩ :=
        wf.displayName_of_singleton named stored flagged
      obtain rfl : object = object' := Option.some.inj (attached.symm.trans attached')
      obtain rfl : inner = inner' := Except.ok.inj (shown.symm.trans shown')
      refine ⟨_, outer, "#<Class:".toList ++ front, ?_⟩
      rw [List.replicate_succ']
      simp [same]

/-- Two objects at the same height above the same one are the same: a singleton class is attached
to one object and an object has one singleton class. -/
theorem Descends.unique (wf : heap.WellFormed builtins) (descends : heap.Descends base id height)
    (descends' : heap.Descends base other height) : id = other := by
  induction descends generalizing other with
  | base _ =>
      cases descends' with
      | base _ => rfl
  | attached stored attached _ ih =>
      cases descends' with
      | attached stored' attached' rest =>
          obtain rfl := ih rest
          have has := ((wf.sound stored).classRecord _ rfl).attached _ attached
          have has' := ((wf.sound stored').classRecord _ rfl).attached _ attached'
          obtain ⟨object, found, header, isHeader, given⟩ := has
          obtain ⟨header', isHeader', given'⟩ := has'.of_get? found
          obtain rfl := Option.some.inj (isHeader.symm.trans isHeader')
          exact Option.some.inj (given.symm.trans given')

end Heap

/-- In a reachable image two objects have the same name only if they are the same, when each of
them is an instance or a class without a name or a singleton class above one of these, at any
depth. The names given to other classes do not matter. -/
theorem Reached.eq_of_computed_name [ReentrantMutex] {settings : Settings}
    {calls : List (Call ObjectId)}
    {image : Image} (reached : Reached settings calls image) {id other : ObjectId}
    (computed : image.heap.IsComputed id) (computed' : image.heap.IsComputed other) :
    ∃ name name', image.heap.displayName id = .ok name ∧
      image.heap.displayName other = .ok name' ∧ (name = name' → id = other) := by
  have wf := reached.wellFormed
  obtain ⟨base, height, descends⟩ := computed
  obtain ⟨base', height', descends'⟩ := computed'
  obtain ⟨name, shown, ends⟩ := descends.exists_displayName wf reached.anchorNamed
  obtain ⟨name', shown', ends'⟩ := descends'.exists_displayName wf reached.anchorNamed
  refine ⟨name, name', shown, shown', ?_⟩
  rintro rfl
  obtain rfl : base = base' := ends.numberAtEnd_eq.symm.trans ends'.numberAtEnd_eq
  obtain rfl : height = height' :=
    Nat.succ.inj (ends.closingBrackets_eq.symm.trans ends'.closingBrackets_eq)
  exact descends.unique wf descends'

/-- The case of an instance, in slot 14, of a class whose name makes the instance look like the
singleton class of a class without a name, such as that in slot 16. -/
theorem Reached.eq_of_computed_name_imitated : ∃ image name name',
    Reached .standard
        [.subclass 5 "Class:#<Class" none, .newObject 11, .declare (.newClass none)] image ∧
      (image.heap.IsComputed 14 ∧ image.heap.displayName 14 = .ok name) ∧
      (image.heap.IsComputed 16 ∧ image.heap.displayName 16 = .ok name') ∧ name ≠ name' := by
  let calls : List (Call ObjectId) :=
    [.subclass 5 "Class:#<Class" none, .newObject 11, .declare (.newClass none)]
  have reached := Reached.afterFirst .standard calls
  let image := (Image.first .standard).afterCalls calls
  have isInstance : image.heap.get? 14 = some (.plain (.fresh .object 11)) := by decide +kernel
  have nameless : image.heap.Has 15 HeapObject.IsNameless := by
    let record : ClassRecord :=
      { ClassRecord.fresh 0 with singleton := some 16, superclass := some 3, initialized := true }
    have stored : image.heap.get? 15 = some (.classRecord record) := by decide +kernel
    exact ⟨_, stored, rfl, rfl⟩
  have isMirror : image.heap.get? 16 = some (.classRecord (.singletonOf 15 4 4 .classTag)) := by
    decide +kernel
  have computed : image.heap.IsComputed 14 := ⟨14, 0, .base ⟨_, isInstance, trivial⟩⟩
  have computed' : image.heap.IsComputed 16 := ⟨15, 1, .attached isMirror rfl (.base nameless)⟩
  obtain ⟨name, name', shown, shown', same⟩ :=
    Reached.eq_of_computed_name reached computed computed'
  refine ⟨image, name, name', reached, ⟨computed, shown⟩, ⟨computed', shown'⟩, ?_⟩
  intro equal
  exact absurd (same equal) (by decide)

end Metamodel
