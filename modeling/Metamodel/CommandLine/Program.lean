import Metamodel.CommandLine.Arguments
import Metamodel.CommandLine.Listing
import Metamodel.CommandLine.LogFilter
import Metamodel.CountingMutex
import Metamodel.Heap.Census
import Metamodel.Image.Collection
import Metamodel.Image.Genesis

/-!
# The program

What the program prints and how it ends, as a function of its arguments and its environment. Each
run starts with a new image. The mutex of that image and the filter of the log may be any; the
executable has the counting mutex and the filter of plain levels.
-/

namespace Metamodel.CommandLine

/-- The parts of the environment that the program reads. -/
structure Environment where
  capacity : Option String
  threshold : Option String
  verbosity : Option String
  deriving DecidableEq, Inhabited

/-- What the program prints and its exit code. -/
structure Outcome where
  code : Nat
  output : String
  /-- The lines on the error channel, those of the log included. -/
  errors : List String
  deriving DecidableEq, Inhabited

/-- What the program can be asked for. -/
inductive Command where
  | graph
  | ancestors
  | stats
  deriving DecidableEq, Inhabited

/-- The command with the given name. -/
def Command.ofName? : String → Option Command
  | "graph" => some .graph
  | "ancestors" => some .ancestors
  | "stats" => some .stats
  | _ => none

variable [LogFilter]

/-- The filter of the log: all but the finest events on request, otherwise what the directives in
the environment make, and warnings if there are none that can be read. -/
def logFilter (arguments : Arguments) (environment : Environment) : LogFilter.Filter :=
  if arguments.verbose then LogFilter.new "debug"
  else (environment.verbosity.bind LogFilter.new?).getD (LogFilter.new "warn")

/-- The log lines of events. -/
def logLines (filter : LogFilter.Filter) (events : List Event) : List String :=
  (events.filter (LogFilter.admits filter)).map Event.line

/-- Text with one line for each of a list. -/
def textOfLines (lines : List String) : String :=
  String.join (lines.map (· ++ "\n"))

variable [ReentrantMutex]

/-- The outcome of a command on a new image: the events after the start, and what is printed. -/
def Command.run (command : Command) (names : List String) (image : Image) :
    List Event × Outcome :=
  match command with
  | .graph => ([], ⟨0, textOfLines (graphLines image.heap), []⟩)
  | .ancestors =>
      match names.find? fun name => (builtinNamed? image name).isNone with
      | some name => ([], ⟨1, "", ["Unknown class: " ++ name]⟩)
      | none =>
          let named := names.filterMap (builtinNamed? image)
          let targets := if named.isEmpty then image.builtins.toList else named
          match targets.mapM (chainLine image.heap) with
          | .ok lines => ([], ⟨0, textOfLines lines, []⟩)
          | .error fault => ([], ⟨1, "", [fault.message]⟩)
  | .stats =>
      match Image.collect [] { image with journal := #[] } with
      | .ok tally image =>
          (image.journal.toList ++ [.collectedForReport tally.live tally.freed],
            ⟨0, textOfLines [image.heap.census.report], []⟩)
      | .error fault image => (image.journal.toList, ⟨1, "", [fault.message]⟩)

/-- The outcome of a program run on arguments that could be told apart. -/
def runArguments (arguments : Arguments) (environment : Environment) : Outcome :=
  let settings := Settings.ofEnvironment environment.capacity environment.threshold
  let log := logLines (logFilter arguments environment)
  match Image.start settings with
  | .error fault => ⟨1, "", log [.started settings] ++ ["bootstrap failed: " ++ fault.message]⟩
  | .ok image =>
      let before := log (.started settings :: image.journal.toList)
      match Command.ofName? arguments.command with
      | none => ⟨2, "", before ++ ["Unknown command: " ++ arguments.command, usage]⟩
      | some command =>
          let (events, outcome) := command.run arguments.names image
          { outcome with errors := before ++ log events ++ outcome.errors }

/-- The outcome of a program run. -/
def run (arguments : List String) (environment : Environment) : Outcome :=
  match Arguments.parse arguments with
  | .error fault => ⟨2, "", [fault.message]⟩
  | .ok arguments => runArguments arguments environment

end Metamodel.CommandLine
