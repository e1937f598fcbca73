/-!
# Command line arguments

The first argument is the command. After it, the verbosity option may stand anywhere among the
names; anything else that starts like an option is refused.
-/

namespace Metamodel.CommandLine

/-- Command line arguments, told apart. -/
structure Arguments where
  command : String
  verbose : Bool
  names : List String
  deriving DecidableEq, Inhabited

/-- Why arguments cannot be told apart. -/
inductive UsageFault where
  | noCommand
  | unknownOption (option : String)
  deriving DecidableEq, Inhabited

/-- How the program is called. -/
def usage : String :=
  "Usage: orb <graph|ancestors|stats> [--verbose] [<class-name>...]"

/-- The text of a usage fault. -/
def UsageFault.message : UsageFault → String
  | noCommand => usage
  | unknownOption option => "Unknown option: " ++ option

/-- Whether an argument starts like an option. -/
def isOption (argument : String) : Bool :=
  match argument.toList with
  | '-' :: '-' :: _ => true
  | _ => false

/-- The option that asks for a detailed report. -/
def verboseOption : String := "--verbose"

namespace Arguments

/-- Take the arguments that follow the command, one after another. -/
def readRest (arguments : Arguments) : List String → Except UsageFault Arguments
  | [] => .ok arguments
  | argument :: rest =>
      if argument = verboseOption then
        { arguments with verbose := true : Arguments }.readRest rest
      else if isOption argument then .error (.unknownOption argument)
      else { arguments with names := arguments.names ++ [argument] : Arguments }.readRest rest

/-- Tell the command, the verbosity and the names apart. -/
def parse : List String → Except UsageFault Arguments
  | [] => .error .noCommand
  | command :: rest => readRest ⟨command, false, []⟩ rest

end Arguments

end Metamodel.CommandLine
