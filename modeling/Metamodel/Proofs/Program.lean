import Metamodel.CountingMutex
import Metamodel.Proofs.Commands

/-!
# How the program ends

The exit code of the program and what it prints depend on its arguments only, and on those only up
to the verbosity option: neither the environment nor that option changes more than the log. The
exit code tells apart arguments that cannot be used, a superclass chain that is asked for by a name
that no built-in class has, and success.

## Implementation notes

A run has a verdict that is a function of its arguments. What the environment decides, the log, is
kept apart from it and stands before its lines; the filter of the log may be any.
-/

namespace Metamodel.CommandLine

/-- The arguments after the command, without the verbosity option. -/
def further (arguments : List String) : List String :=
  arguments.tail.filter (· ≠ verboseOption)

theorem isOption_iff {argument : String} :
    isOption argument ↔ ['-', '-'] <+: argument.toList := by
  unfold isOption
  split
  · next rest shape =>
      rw [shape]
      exact ⟨fun _ => List.prefix_append _ rest, fun _ => rfl⟩
  · next other =>
      refine ⟨nofun, ?_⟩
      rintro ⟨rest, shape⟩
      exact absurd shape.symm (other rest)

theorem isOption_eq (argument : String) :
    isOption argument = ['-', '-'].isPrefixOf argument.toList := by
  rw [Bool.eq_iff_iff, isOption_iff, List.isPrefixOf_iff_prefix]

theorem find?_isOption_eq_none_iff {arguments : List String} :
    (further arguments).find? isOption = none ↔
    ∀ argument ∈ further arguments, ¬ ['-', '-'] <+: argument.toList := by
  rw [List.find?_eq_none]
  exact forall₂_congr fun argument _ => not_congr isOption_iff

namespace Arguments

/-- The first unknown option ends the reading; otherwise all names are kept in their order. -/
theorem readRest_eq (arguments : Arguments) (rest : List String) :
    arguments.readRest rest = match (rest.filter (· ≠ verboseOption)).find? isOption with
      | some option => .error (.unknownOption option)
      | none => .ok { arguments with
          verbose := arguments.verbose || rest.contains verboseOption
          names := arguments.names ++ rest.filter (· ≠ verboseOption) } := by
  -- generalized over what has been read, which the names and the verbosity are added to
  induction rest generalizing arguments with
  | nil => simp [readRest]
  | cons argument rest ih =>
      rw [readRest]
      by_cases verbose : argument = verboseOption
      · rw [if_pos verbose, ih]
        subst verbose
        simp
      · rw [if_neg verbose]
        by_cases option : isOption argument
        · simp [verbose, option]
        · rw [if_neg option, ih]
          simp [verbose, option, Ne.symm verbose]

theorem parse_cons (command : String) (rest : List String) :
    parse (command :: rest) = match (further (command :: rest)).find? isOption with
      | some option => .error (.unknownOption option)
      | none => .ok ⟨command, rest.contains verboseOption, further (command :: rest)⟩ :=
  readRest_eq ⟨command, false, []⟩ rest

end Arguments

/-- The outcome of a run without its log. -/
def verdict [ReentrantMutex] (arguments : List String) : Outcome :=
  match arguments.head? with
  | none => ⟨2, "", [usage]⟩
  | some command =>
      match (further arguments).find? isOption with
      | some option => ⟨2, "", ["Unknown option: " ++ option]⟩
      | none =>
          match Command.ofName? command with
          | none => ⟨2, "", ["Unknown command: " ++ command, usage]⟩
          | some asked => asked.answer (further arguments)

section Run

variable [ReentrantMutex] [LogFilter]

/-- What the run is about has its outcome after the log. -/
theorem runArguments_eq (arguments : Arguments) (environment : Environment) :
    ∃ log, runArguments arguments environment =
      match Command.ofName? arguments.command with
      | none => ⟨2, "", log ++ ["Unknown command: " ++ arguments.command, usage]⟩
      | some asked => { asked.answer arguments.names with
          errors := log ++ (asked.answer arguments.names).errors } := by
  unfold runArguments
  dsimp only
  rw [Image.start_eq]
  cases Command.ofName? arguments.command with
  | none => exact ⟨_, rfl⟩
  | some asked =>
      dsimp only
      rw [← asked.run_first (Settings.ofEnvironment environment.capacity environment.threshold)]
      exact ⟨_, rfl⟩

/-- A run ends as its arguments say, and only the log comes before that. -/
theorem run_eq_verdict (arguments : List String) (environment : Environment) :
    ∃ log, run arguments environment =
      ⟨(verdict arguments).code, (verdict arguments).output,
        log ++ (verdict arguments).errors⟩ := by
  cases arguments with
  | nil => exact ⟨[], rfl⟩
  | cons command rest =>
      unfold run verdict
      rw [Arguments.parse_cons, List.head?_cons]
      cases (further (command :: rest)).find? isOption with
      | some option => exact ⟨[], rfl⟩
      | none =>
          obtain ⟨log, same⟩ := runArguments_eq
            ⟨command, rest.contains verboseOption, further (command :: rest)⟩ environment
          refine ⟨log, same.trans ?_⟩
          cases found : Command.ofName? command with
          | none => simp only [found]
          | some asked => simp only [found]

theorem code_run (arguments : List String) (environment : Environment) :
    (run arguments environment).code = (verdict arguments).code := by
  obtain ⟨log, same⟩ := run_eq_verdict arguments environment
  rw [same]

theorem output_run (arguments : List String) (environment : Environment) :
    (run arguments environment).output = (verdict arguments).output := by
  obtain ⟨log, same⟩ := run_eq_verdict arguments environment
  rw [same]

theorem errors_run (arguments : List String) (environment : Environment) :
    ∃ log, (run arguments environment).errors = log ++ (verdict arguments).errors := by
  obtain ⟨log, same⟩ := run_eq_verdict arguments environment
  exact ⟨log, congrArg Outcome.errors same⟩

/-- An unknown option is reported before anything is logged. -/
theorem run_of_option {arguments : List String} {option : String}
    (found : (further arguments).find? isOption = some option) (environment : Environment) :
    run arguments environment = ⟨2, "", ["Unknown option: " ++ option]⟩ := by
  cases arguments with
  | nil => cases found
  | cons command rest =>
      unfold run
      rw [Arguments.parse_cons, found]
      rfl

end Run

/-- The arguments cannot be used: there are none, one after the command starts like an option and
is not the verbosity option, or the first is not the name of a command. -/
def Misused (arguments : List String) : Prop :=
  arguments = [] ∨ (∃ argument ∈ further arguments, ['-', '-'] <+: argument.toList) ∨
    ∃ command ∈ arguments.head?, command ∉ ["graph", "ancestors", "stats"]

/-- The options can be used, but the superclass chain of a class is asked for by a name that no
built-in class has. -/
def Misnamed (arguments : List String) : Prop :=
  (∀ argument ∈ further arguments, ¬ ['-', '-'] <+: argument.toList) ∧
    arguments.head? = some "ancestors" ∧ ∃ name ∈ further arguments, name ∉ builtinNames

section Verdict

variable [ReentrantMutex] {arguments : List String}

theorem verdict_of_misused (misused : Misused arguments) :
    (verdict arguments).code = 2 ∧ (verdict arguments).output = "" := by
  unfold verdict
  rcases misused with rfl | ⟨argument, given, option⟩ | ⟨command, first, other⟩
  · exact ⟨rfl, rfl⟩
  · cases arguments.head? with
    | none => exact ⟨rfl, rfl⟩
    | some command =>
        cases found : (further arguments).find? isOption with
        | some option => exact ⟨rfl, rfl⟩
        | none => exact absurd option (find?_isOption_eq_none_iff.mp found argument given)
  · rw [Option.mem_def.mp first]
    cases (further arguments).find? isOption with
    | some option => exact ⟨rfl, rfl⟩
    | none =>
        simp only [Command.ofName?_eq_none_iff.mpr other, and_self]

theorem verdict_of_command {command : String} {asked : Command}
    (first : arguments.head? = some command) (known : Command.ofName? command = some asked)
    (plain : ∀ argument ∈ further arguments, ¬ ['-', '-'] <+: argument.toList) :
    verdict arguments = asked.answer (further arguments) := by
  unfold verdict
  rw [first]
  simp only [find?_isOption_eq_none_iff.mpr plain, known]

theorem verdict_of_misnamed (misnamed : Misnamed arguments) :
    ∃ name, (further arguments).find? (· ∉ builtinNames) = some name ∧
      verdict arguments = ⟨1, "", ["Unknown class: " ++ name]⟩ := by
  obtain ⟨plain, first, unknown⟩ := misnamed
  rw [verdict_of_command first rfl plain, Command.answer, Command.run_ancestors]
  cases found : (further arguments).find? (· ∉ builtinNames) with
  | some name => exact ⟨name, rfl, rfl⟩
  | none =>
      obtain ⟨name, given, other⟩ := unknown
      exact absurd (decide_eq_true other) (List.find?_eq_none.mp found name given)

theorem verdict_of_neither (used : ¬ Misused arguments) (named : ¬ Misnamed arguments) :
    (verdict arguments).code = 0 ∧ (arguments.head? = some "ancestors" →
      (verdict arguments).output = textOfLines
        ((if further arguments = [] then builtinNames else further arguments).map
          builtinLine)) := by
  simp only [Misused, not_or, not_exists, not_and] at used
  obtain ⟨some, plain, known⟩ := used
  obtain ⟨command, first⟩ := Option.ne_none_iff_exists'.mp (mt List.head?_eq_none_iff.mp some)
  obtain ⟨asked, asks⟩ := Option.ne_none_iff_exists'.mp
    (mt Command.ofName?_eq_none_iff.mp (known command first))
  rw [verdict_of_command first asks plain, Command.answer]
  cases asked with
  | graph =>
      rw [Command.run_graph]
      refine ⟨rfl, fun ancestors => ?_⟩
      cases first.symm.trans ancestors
      cases asks
  | stats =>
      rw [Command.run_stats]
      refine ⟨rfl, fun ancestors => ?_⟩
      cases first.symm.trans ancestors
      cases asks
  | ancestors =>
      rw [Command.run_ancestors]
      -- a name that no built-in class has would be a wrong one
      cases found : (further arguments).find? (· ∉ builtinNames) with
      | none => exact ⟨rfl, fun _ => rfl⟩
      | some name =>
          refine absurd ⟨plain, ?_, name, List.mem_of_find?_eq_some found, ?_⟩ named
          · rw [first, Command.eq_of_ofName?_ancestors asks]
          · simpa using List.find?_some found

/-- The arguments cannot be used, or name no built-in class, or neither. -/
theorem verdict_cases (arguments : List String) :
    (Misused arguments ∧ ¬ Misnamed arguments ∧ (verdict arguments).code = 2 ∧
        (verdict arguments).output = "") ∨
      (¬ Misused arguments ∧ Misnamed arguments ∧ (verdict arguments).code = 1 ∧
        (verdict arguments).output = "") ∨
      (¬ Misused arguments ∧ ¬ Misnamed arguments ∧ (verdict arguments).code = 0) := by
  by_cases misused : Misused arguments
  · obtain ⟨code, output⟩ := verdict_of_misused misused
    refine .inl ⟨misused, fun misnamed => ?_, code, output⟩
    obtain ⟨name, _, same⟩ := verdict_of_misnamed misnamed
    rw [same] at code
    cases code
  · by_cases misnamed : Misnamed arguments
    · obtain ⟨name, _, same⟩ := verdict_of_misnamed misnamed
      rw [same]
      exact .inr (.inl ⟨misused, misnamed, rfl, rfl⟩)
    · exact .inr (.inr ⟨misused, misnamed, (verdict_of_neither misused misnamed).1⟩)

theorem code_verdict_iff (arguments : List String) :
    ((verdict arguments).code = 2 ↔ Misused arguments) ∧
      ((verdict arguments).code = 1 ↔ Misnamed arguments) ∧
      ((verdict arguments).code = 0 ↔ ¬ Misused arguments ∧ ¬ Misnamed arguments) := by
  rcases verdict_cases arguments with
    ⟨misused, named, code, _⟩ | ⟨used, misnamed, code, _⟩ | ⟨used, named, code⟩
  · simp [misused, named, code]
  · simp [used, misnamed, code]
  · simp [used, named, code]

/-- Nothing is printed by a run that fails. -/
theorem output_verdict (failed : (verdict arguments).code ≠ 0) :
    (verdict arguments).output = "" := by
  rcases verdict_cases arguments with
    ⟨_, _, _, printed⟩ | ⟨_, _, _, printed⟩ | ⟨_, _, done⟩
  · exact printed
  · exact printed
  · exact absurd done failed

end Verdict

/-- The exit code is 2 for arguments that cannot be used, 1 if a superclass chain is asked for by a
name that no built-in class has, and 0 otherwise; nothing is printed unless it is 0. The first
unknown option or name is the one that is reported. The chains asked for, or those of all built-in
classes if none is asked for, are printed in their order, one line each. Neither the environment nor
the verbosity option after the command makes a difference to the exit code and what is printed,
whatever the filter of the log lets through. -/
theorem run_decided [ReentrantMutex] [LogFilter] (arguments : List String)
    (environment : Environment) :
    let outcome := run arguments environment
    (outcome.code = 2 ↔ Misused arguments) ∧ (outcome.code = 1 ↔ Misnamed arguments) ∧
      (outcome.code = 0 ↔ ¬ Misused arguments ∧ ¬ Misnamed arguments) ∧
      (outcome.code ≠ 0 → outcome.output = "") ∧
      (∀ option, (further arguments).find? (['-', '-'].isPrefixOf ·.toList) = some option →
        outcome.errors = ["Unknown option: " ++ option]) ∧
      (Misnamed arguments → ∃ name, (further arguments).find? (· ∉ builtinNames) = some name ∧
        outcome.errors.getLast? = some ("Unknown class: " ++ name)) ∧
      (outcome.code = 0 → arguments.head? = some "ancestors" → outcome.output = textOfLines
        ((if further arguments = [] then builtinNames else further arguments).map builtinLine)) ∧
      ∀ arguments' environment', arguments'.head? = arguments.head? →
        further arguments' = further arguments →
        (run arguments' environment').code = outcome.code ∧
          (run arguments' environment').output = outcome.output := by
  dsimp only
  rw [code_run, output_run]
  obtain ⟨two, one, zero⟩ := code_verdict_iff arguments
  refine ⟨two, one, zero, output_verdict, ?_, ?_, ?_, ?_⟩
  · intro option found
    rw [← funext isOption_eq] at found
    rw [run_of_option found]
  · intro misnamed
    obtain ⟨log, logged⟩ := errors_run arguments environment
    obtain ⟨name, found, ended⟩ := verdict_of_misnamed misnamed
    refine ⟨name, found, ?_⟩
    rw [logged, ended, List.getLast?_concat]
  · intro done first
    obtain ⟨used, named⟩ := zero.mp done
    exact (verdict_of_neither used named).2 first
  · intro arguments' environment' first rest
    rw [code_run, output_run, verdict, verdict, first, rest]
    exact ⟨rfl, rfl⟩

/-- The case of a class named twice, with the verbosity option in between. -/
theorem run_decided_twice :
    let outcome := run ["ancestors", "Object", "--verbose", "Object"] ⟨some "1", some "5", none⟩
    outcome.code = 0 ∧
      outcome.output = textOfLines ["Object < BasicObject", "Object < BasicObject"] := by
  intro outcome
  obtain ⟨_, _, zero, _, _, _, listed, _⟩ :=
    run_decided ["ancestors", "Object", "--verbose", "Object"] ⟨some "1", some "5", none⟩
  have rest : further ["ancestors", "Object", "--verbose", "Object"] = ["Object", "Object"] := rfl
  have done : outcome.code = 0 := by
    refine zero.mpr ⟨?_, ?_⟩
    · simp [Misused, rest]
    · simp [Misnamed, rest, builtinNames]
  refine ⟨done, (listed done rfl).trans ?_⟩
  rw [rest]
  rfl

end Metamodel.CommandLine
