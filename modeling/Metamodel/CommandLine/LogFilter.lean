import Metamodel.Event

/-!
# Log filters

Directives, a text, say which events are logged. The filter that reads them comes from outside, and
nothing is assumed of what it lets through.
-/

namespace Metamodel.CommandLine

/-- Filters for the events of a log. -/
class LogFilter where
  Filter : Type
  /-- The filter that directives make. Those that cannot be read are left out. -/
  new : String → Filter
  /-- The filter that directives make, if all of them can be read. -/
  new? : String → Option Filter
  /-- Whether a filter lets an event through. -/
  admits : Filter → Event → Bool

/-- The filter whose directives are the name of a level. The gravest one stands for all other
directives. -/
instance plainLevels : LogFilter where
  Filter := Verbosity
  new directives := (Verbosity.ofName? directives).getD (some .error)
  new? := Verbosity.ofName?
  admits verbosity event := verbosity.admits event.level

end Metamodel.CommandLine
