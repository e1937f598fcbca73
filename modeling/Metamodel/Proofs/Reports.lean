import Mathlib.Data.List.Basic
import Metamodel.Heap.Census

/-!
# Reading reports

The report of a census is read back line by line and word by word. Its words are the labels and the
figures of the census, each figure in its place, whatever the width of its column.

## Implementation notes

Every figure stands between two breaks, so the words of a line are those of its pieces.
-/

namespace Metamodel

namespace Text

/-- What ends a word: blanks, commas and brackets. -/
def isBreak (c : Char) : Bool :=
  c = ' ' || c = ',' || c = '(' || c = ')'

/-- The words of a line. -/
def words (line : List Char) : List String :=
  ((line.splitOnP isBreak).filter (· ≠ [])).map String.ofList

/-- The words of a text, line by line. -/
def wordsByLine (text : String) : List (List String) :=
  (text.toList.splitOn '\n').map words

/-- The words on the two sides of a break. -/
theorem words_append_cons (before after : List Char) {c : Char} (broken : isBreak c) :
    words (before ++ c :: after) = words before ++ words after := by
  unfold words
  rw [List.splitOnP_append_cons _ _ broken, List.filter_append, List.map_append]

/-- A piece of a line whose last character is a break. -/
abbrev EndsInBreak (piece : List Char) : Prop :=
  piece.getLast?.any isBreak

/-- A piece of a line whose first character is a break. -/
abbrev BeginsWithBreak (piece : List Char) : Prop :=
  piece.head?.any isBreak

section Pieces

variable {front back unit : List Char}

theorem EndsInBreak.append (front : List Char) (ends : EndsInBreak back) :
    EndsInBreak (front ++ back) := by
  obtain ⟨c, last, broken⟩ := Option.any_eq_true _ _ |>.mp ends
  exact Option.any_eq_true _ _ |>.mpr ⟨c, List.mem_getLast?_append_of_mem_getLast? last, broken⟩

theorem words_append_of_ends (ends : EndsInBreak front) (back : List Char) :
    words (front ++ back) = words front ++ words back := by
  obtain ⟨c, last, broken⟩ := Option.any_eq_true _ _ |>.mp ends
  obtain ⟨before, rfl⟩ := List.getLast?_eq_some_iff.mp last
  rw [List.append_assoc, List.singleton_append, words_append_cons _ _ broken,
    words_append_cons _ _ broken]
  exact congrArg (· ++ words back) (List.append_nil _).symm

theorem words_append_of_begins (front : List Char) (begins : BeginsWithBreak back) :
    words (front ++ back) = words front ++ words back := by
  obtain ⟨c, first, broken⟩ := Option.any_eq_true _ _ |>.mp begins
  obtain ⟨after, rfl⟩ := List.head?_eq_some_iff.mp first
  rw [words_append_cons _ _ broken]
  exact congrArg (words front ++ ·) (words_append_cons [] after broken).symm

/-- The words around a figure do not run into it. -/
theorem words_around (ends : EndsInBreak front) (figure : List Char)
    (begins : BeginsWithBreak unit) :
    words (front ++ figure ++ unit) = words front ++ words figure ++ words unit := by
  rw [words_append_of_begins _ begins, words_append_of_ends ends]

end Pieces

section Figures

variable (width value : Nat)

theorem not_isBreak_of_isDigit {c : Char} (digit : c.isDigit) : isBreak c = false := by
  cases broken : isBreak c with
  | false => rfl
  | true =>
      simp only [isBreak, Bool.or_eq_true, decide_eq_true_eq] at broken
      rcases broken with ((rfl | rfl) | rfl) | rfl <;> cases digit

/-- A number is one word. -/
theorem words_toDigits : words (Nat.toDigits 10 value) = [toString value] := by
  have unbroken : ∀ c ∈ Nat.toDigits 10 value, isBreak c = false := fun c mem =>
    not_isBreak_of_isDigit (Nat.isDigit_of_mem_toDigits (by decide) (by decide) mem)
  rw [words, List.splitOnP_eq_singleton unbroken, List.filter_cons_of_pos]
  · rfl
  · exact decide_eq_true Nat.toDigits_ne_nil

theorem words_toString : words (toString value).toList = [toString value] :=
  (congrArg words String.toList_ofList).trans (words_toDigits value)

/-- A word is the numeral of one number at most. -/
theorem toString_inj {value other : Nat} : toString value = toString other ↔ value = other := by
  refine ⟨fun same => ?_, congrArg _⟩
  have digits : Nat.toDigits 10 value = Nat.toDigits 10 other :=
    String.toList_ofList.symm.trans ((congrArg String.toList same).trans String.toList_ofList)
  rw [← Nat.ofDigitChars_ten_toDigits (n := value), digits, Nat.ofDigitChars_ten_toDigits]

/-- A number at the edge of a column is one word. -/
theorem words_column : words (column width value).toList = [toString value] := by
  rw [column, String.toList_ofList, padLeft_eq_append]
  induction width - (Nat.toDigits 10 value).length with
  | zero => exact words_toDigits value
  | succ blanks ih => exact (words_append_cons [] _ rfl).trans ih

theorem newline_notMem_toDigits : '\n' ∉ Nat.toDigits 10 value := by
  intro mem
  cases Nat.isDigit_of_mem_toDigits (by decide) (by decide) mem

theorem newline_notMem_toString : '\n' ∉ (toString value).toList :=
  String.toList_ofList ▸ newline_notMem_toDigits value

theorem newline_notMem_column : '\n' ∉ (column width value).toList := by
  rw [column, String.toList_ofList, padLeft_eq_append, List.mem_append, not_or]
  exact ⟨fun mem => absurd (List.eq_of_mem_replicate mem) (by decide),
    newline_notMem_toDigits value⟩

end Figures

end Text

namespace Census

variable (census : Census)

/-- What a report of a census has to say, line by line and word by word. -/
def rows : List (List String) :=
  [["===", "Heap", "Memory", "Stats", "==="],
    ["Classes:", toString census.classes, toString census.named, "named",
      toString census.anonymous, "anonymous", toString census.singleton, "singleton",
      toString census.uninitialized, "uninitialized"],
    ["Objects:", toString census.plain],
    ["Strings:", toString census.texts],
    ["--------------------------"],
    ["Total:", toString census.total, "objects", toString census.bytes, "bytes"],
    ["Heap", "vec:", toString census.slots, "slots"],
    ["Free:", toString census.vacant, "slots"],
    ["Pinned:", toString census.pinned]]

/-- A text shows the figures of a census: each of its lines has the label and the figures that it is
to have, and nothing besides. -/
def ShownBy (text : String) : Prop :=
  Text.wordsByLine text = census.rows

/-- A text shows the figures of one census at most. -/
theorem ShownBy.unique {first second : Census} {text : String} (shown : first.ShownBy text)
    (shown' : second.ShownBy text) : first = second := by
  have same : first.rows = second.rows := shown.symm.trans shown'
  simp only [rows, List.cons.injEq, Text.toString_inj, true_and, and_true] at same
  obtain ⟨⟨_, named, anonymous, singleton, uninitialized⟩, plain, texts, ⟨_, bytes⟩, slots, vacant,
    pinned⟩ := same
  cases first
  cases second
  rw [mk.injEq]
  exact ⟨named, anonymous, singleton, uninitialized, plain, texts, bytes, slots, vacant, pinned⟩

theorem words_lines : census.lines.map (fun line => Text.words line.toList) = census.rows := by
  unfold lines rows
  simp only [List.map_cons, List.map_nil, String.toList_append]
  simp (disch := first | decide | (apply Text.EndsInBreak.append; decide)) only
    [Text.words_around, Text.words_append_of_ends, Text.words_column, Text.words_toString]
  rfl

theorem newline_notMem_lines : ∀ line ∈ census.lines, '\n' ∉ line.toList := by
  simp only [lines, List.forall_mem_cons, String.toList_append, List.mem_append,
    Text.newline_notMem_column, Text.newline_notMem_toString, or_false]
  decide

/-- The report of a census shows its figures. -/
theorem shownBy_report : census.ShownBy census.report := by
  have newline : "\n".toList = ['\n'] := rfl
  have plain : ∀ line ∈ census.lines.map String.toList, '\n' ∉ line := by
    intro line mem
    obtain ⟨line, among, rfl⟩ := List.mem_map.mp mem
    exact census.newline_notMem_lines line among
  rw [ShownBy, Text.wordsByLine, report, String.toList_intercalate, newline,
    List.splitOn_intercalate _ plain (List.cons_ne_nil _ _), List.map_map]
  exact census.words_lines

end Census

end Metamodel
