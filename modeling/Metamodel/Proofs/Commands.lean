import Metamodel.CommandLine.Program
import Metamodel.Proofs.Pacing

/-!
# What the commands answer

Each command is answered from a new image, and the answer does not depend on the settings of that
image. Superclass chains are shown for names of built-in classes and for no others.

## Implementation notes

New images differ in their pace alone. The class graph is read off the slots, and the statistics
follow a collection, which leaves the same objects whatever the pace.
-/

namespace Metamodel.CommandLine

section Classes

/-- The names of the built-in classes, in the order in which they are listed. -/
def builtinNames : List String := ["Class", "BasicObject", "Object", "Module"]

/-- The names on the superclass chain of a built-in class. -/
def builtinChain : String → List String
  | "Class" => ["Class", "Module", "Object", "BasicObject"]
  | "BasicObject" => ["BasicObject"]
  | "Object" => ["Object", "BasicObject"]
  | "Module" => ["Module", "Object", "BasicObject"]
  | _ => []

/-- The line that shows the superclass chain of a built-in class. -/
def builtinLine (name : String) : String := " < ".intercalate (builtinChain name)

variable [ReentrantMutex] (settings : Settings) {name : String}

theorem builtinNamed?_first (name : String) : builtinNamed? (.first settings) name =
    [("Class", 0), ("BasicObject", 3), ("Object", 5), ("Module", 8)].lookup name := by
  have anchor : (Image.first settings).heap.className 0 = .ok (some "Class") := rfl
  have root : (Image.first settings).heap.className 3 = .ok (some "BasicObject") := rfl
  have objectClass : (Image.first settings).heap.className 5 = .ok (some "Object") := rfl
  have moduleClass : (Image.first settings).heap.className 8 = .ok (some "Module") := rfl
  have same (stored : String) : decide (some stored = some name) = (name == stored) := by
    rw [Bool.eq_iff_iff, decide_eq_true_eq, beq_iff_eq, Option.some_inj, eq_comm]
  -- the classes are tried in the order in which they are listed
  change List.find? _ [0, 3, 5, 8] = _
  simp only [List.find?_cons, List.lookup_cons, anchor, root, objectClass, moduleClass, same]
  rfl

theorem chainLine_first (known : name ∈ builtinNames) : ∃ id,
    builtinNamed? (.first settings) name = some id ∧
      chainLine (Image.first settings).heap id = .ok (builtinLine name) := by
  simp only [builtinNames, List.mem_cons, List.not_mem_nil, or_false] at known
  rcases known with rfl | rfl | rfl | rfl
  · exact ⟨0, builtinNamed?_first settings _, rfl⟩
  · exact ⟨3, builtinNamed?_first settings _, rfl⟩
  · exact ⟨5, builtinNamed?_first settings _, rfl⟩
  · exact ⟨8, builtinNamed?_first settings _, rfl⟩

theorem isNone_builtinNamed? (name : String) :
    (builtinNamed? (.first settings) name).isNone = decide (name ∉ builtinNames) := by
  by_cases known : name ∈ builtinNames
  · obtain ⟨id, named, _⟩ := chainLine_first settings known
    simp [named, known]
  · rw [builtinNamed?_first, decide_eq_true known, Option.isNone_iff_eq_none,
      List.lookup_eq_none_iff]
    simpa [builtinNames] using known

/-- The chains of built-in classes are shown in the order of their names. -/
theorem mapM_chainLine {names : List String} (known : ∀ name ∈ names, name ∈ builtinNames) :
    (names.filterMap (builtinNamed? (.first settings))).mapM
      (chainLine (Image.first settings).heap) = .ok (names.map builtinLine) := by
  induction names with
  | nil => rfl
  | cons name rest ih =>
      obtain ⟨first, later⟩ := List.forall_mem_cons.mp known
      obtain ⟨id, named, shown⟩ := chainLine_first settings first
      rw [List.filterMap_cons_some named, List.mapM_cons, shown, ih later]
      rfl

end Classes

/-- The class graph does not depend on the pace. -/
theorem graphLines_unpaced (heap : Heap) : graphLines heap.unpaced = graphLines heap := by
  have display : shown heap.unpaced = shown heap := by
    funext id
    rw [shown, shown, (Heap.FromSlots.displayName id).unpaced heap]
  have display? : shown? heap.unpaced = shown? heap := by
    funext id
    cases id with
    | none => rfl
    | some id => exact congrFun display id
  have line : classLine heap.unpaced = classLine heap := by
    funext id record
    rw [classLine, classLine, display, display?]
  unfold graphLines
  rw [line]
  rfl

namespace Command

theorem ofName?_eq_none_iff {name : String} :
    ofName? name = none ↔ name ∉ ["graph", "ancestors", "stats"] := by
  unfold ofName?
  split <;> simp_all

theorem eq_of_ofName?_ancestors {name : String} (asks : ofName? name = some ancestors) :
    name = "ancestors" := by
  unfold ofName? at asks
  split at asks <;> simp_all

variable [ReentrantMutex] (settings : Settings) (names : List String)

theorem run_graph : (graph.run names (.first settings)).2 =
    ⟨0, textOfLines (graphLines (Image.first .standard).heap), []⟩ := by
  rw [run, ← graphLines_unpaced]
  rfl

/-- The chains asked for are listed, or the first name without a built-in class is reported. -/
theorem run_ancestors : (ancestors.run names (.first settings)).2 =
    match names.find? (· ∉ builtinNames) with
    | some name => ⟨1, "", ["Unknown class: " ++ name]⟩
    | none =>
        ⟨0, textOfLines ((if names = [] then builtinNames else names).map builtinLine), []⟩ := by
  rw [run, funext (isNone_builtinNamed? settings)]
  cases found : names.find? (· ∉ builtinNames) with
  | some name => rfl
  | none =>
      have known : ∀ name ∈ names, name ∈ builtinNames := by
        simpa using found
      -- the names of all built-in classes stand for no name at all
      have targets : (if (names.filterMap (builtinNamed? (.first settings))).isEmpty then
            (Image.first settings).builtins.toList
          else names.filterMap (builtinNamed? (.first settings))) =
          (if names = [] then builtinNames else names).filterMap
            (builtinNamed? (.first settings)) := by
        cases names with
        | nil => rfl
        | cons name rest =>
            obtain ⟨id, named, _⟩ := chainLine_first settings (known name List.mem_cons_self)
            rw [if_neg (List.cons_ne_nil name rest), List.filterMap_cons_some named]
            rfl
      have listed : ∀ name ∈ if names = [] then builtinNames else names, name ∈ builtinNames := by
        split
        · exact fun _ mem => mem
        · exact known
      dsimp only
      rw [targets, mapM_chainLine settings listed]

/-- The statistics are those of the image that a collection without further roots leaves. -/
theorem run_stats : (stats.run names (.first settings)).2 =
    ⟨0, textOfLines [((Image.first .standard).heap.collect
      ((Image.first .standard).standingRoots ++ [])).2.census.report], []⟩ := by
  have heap : (Image.first settings).heap.unpaced = (Image.first .standard).heap.unpaced := rfl
  obtain ⟨_, swept⟩ := Heap.collect_agree heap ((Image.first .standard).standingRoots ++ [])
  have census (heap : Heap) : heap.unpaced.census = heap.census := rfl
  have counted := congrArg Heap.census swept
  have standing : ({ Image.first settings with journal := #[] } : Image).standingRoots =
      (Image.first .standard).standingRoots := rfl
  rw [census, census] at counted
  rw [run, Image.collect_apply]
  dsimp only
  rw [standing, counted]

/-- What a command answers to names, on a new image and without the log. -/
def answer (command : Command) (names : List String) : Outcome :=
  (command.run names (.first .standard)).2

/-- The answer does not depend on the settings. -/
theorem run_first (command : Command) :
    (command.run names (.first settings)).2 = command.answer names := by
  cases command with
  | graph => exact (run_graph settings names).trans (run_graph .standard names).symm
  | ancestors => exact (run_ancestors settings names).trans (run_ancestors .standard names).symm
  | stats => exact (run_stats settings names).trans (run_stats .standard names).symm

end Command

end Metamodel.CommandLine
