import Metamodel.Object.Id
import Metamodel.Settings
import Metamodel.Text.Quoted

/-!
# Events

What the object model reports while it runs. Each event has a level, a target, a message and
named fields; a verbosity says which levels are reported.
-/

namespace Metamodel

/-- How detailed an event is, from the gravest to the finest. -/
inductive Level where
  | error
  | warn
  | info
  | debug
  | trace
  deriving DecidableEq, Inhabited

namespace Level

/-- The levels from the gravest to the finest. -/
def all : List Level := [error, warn, info, debug, trace]

/-- The name of a level in reports. -/
def name : Level → String
  | error => "ERROR"
  | warn => "WARN"
  | info => "INFO"
  | debug => "DEBUG"
  | trace => "TRACE"

/-- The place of a level among all, the finest last. -/
def rank : Level → Nat
  | error => 1
  | warn => 2
  | info => 3
  | debug => 4
  | trace => 5

end Level

/-- The finest level that is reported, if any is. -/
abbrev Verbosity := Option Level

namespace Verbosity

/-- Whether events of a level are reported. -/
def admits (verbosity : Verbosity) (level : Level) : Bool :=
  verbosity.any fun finest => level.rank ≤ finest.rank

/-- The verbosity with the given name, in letters of either case. -/
def ofName? (text : String) : Option Verbosity :=
  if text.toUpper = "OFF" then some none
  else (Level.all.find? fun level => level.name = text.toUpper).map some

end Verbosity

/-- The value of an event's field. -/
inductive FieldValue where
  | number (value : Nat)
  | text (content : String)
  | verbatim (content : String)
  deriving DecidableEq, Inhabited

/-- How a field's value is written in a report. -/
def FieldValue.render : FieldValue → String
  | number value => toString value
  | text content => Text.quoted content
  | verbatim content => content

/-- Something that happened to the object model. -/
inductive Event where
  /-- The program starts with these settings. -/
  | started (settings : Settings)
  /-- The class of all classes has been made. -/
  | anchorMade (id : ObjectId)
  /-- The root of the hierarchy has been made, with its singleton class. -/
  | rootMade (id singleton : ObjectId)
  /-- All built-in classes are in place. -/
  | hierarchyReady (anchor root objectClass moduleClass : ObjectId)
  | subclassCreated (receiver subclass : ObjectId) (name : String)
  | classInitialized (declared superclass : ObjectId)
  | classCreated (declared superclass : ObjectId)
  /-- A class has received a singleton class because its superclass has one. -/
  | singletonDerived (subclass singleton : ObjectId)
  | singletonCreated (object singleton superclass : ObjectId)
  | collected (live freed nextThreshold : Nat)
  /-- A collection has been made for the sake of a report. -/
  | collectedForReport (live freed : Nat)
  deriving DecidableEq, Inhabited

namespace Event

/-- The level of an event. Changes to single classes are finer than all else. -/
def level : Event → Level
  | subclassCreated .. | classInitialized .. | classCreated .. | singletonDerived ..
  | singletonCreated .. => .trace
  | _ => .debug

/-- The component that an event is attributed to. -/
def target : Event → String
  | started .. | collectedForReport .. => "orb"
  | anchorMade .. | rootMade .. => "orb_runtime::runtime::bootstrap"
  | hierarchyReady .. => "orb_runtime::runtime::core"
  | subclassCreated .. | classInitialized .. | classCreated .. | singletonDerived .. =>
      "orb_runtime::runtime::link"
  | singletonCreated .. => "orb_runtime::runtime::singleton"
  | collected .. => "orb_runtime::runtime::gc"

/-- The message of an event. -/
def message : Event → String
  | started .. => "starting runtime"
  | anchorMade .. => "bootstrapped metaclass anchor"
  | rootMade .. => "bootstrapped root class"
  | hierarchyReady .. => "core hierarchy ready"
  | subclassCreated .. => "subclass created"
  | classInitialized .. => "class initialized"
  | classCreated .. => "class created"
  | singletonDerived .. => "mirrored singleton class"
  | singletonCreated .. => "singleton class created"
  | collected .. => "gc cycle complete"
  | collectedForReport .. => "collected before stats"

/-- The settings as one field value. -/
def settingsText (settings : Settings) : String :=
  "RuntimeConfig \x7b initial_capacity: " ++ toString settings.capacity ++
    ", gc_threshold: " ++ toString settings.threshold ++
    ", min_gc_threshold: " ++ toString settings.minThreshold ++ " \x7d"

/-- The named values of an event. -/
def fields : Event → List (String × FieldValue)
  | started settings => [("config", .verbatim (settingsText settings))]
  | anchorMade id => [("id", .number id)]
  | rootMade id singleton => [("id", .number id), ("singleton", .number singleton)]
  | hierarchyReady anchor root objectClass moduleClass =>
      [("anchor", .number anchor), ("root", .number root), ("object", .number objectClass),
        ("module", .number moduleClass)]
  | subclassCreated receiver subclass name =>
      [("receiver", .number receiver), ("subclass", .number subclass), ("name", .text name)]
  | classInitialized declared superclass | classCreated declared superclass =>
      [("class", .number declared), ("superclass", .number superclass)]
  | singletonDerived subclass singleton =>
      [("subclass", .number subclass), ("singleton", .number singleton)]
  | singletonCreated object singleton superclass =>
      [("object", .number object), ("singleton", .number singleton),
        ("superclass", .number superclass)]
  | collected live freed nextThreshold =>
      [("live", .number live), ("freed", .number freed),
        ("next_threshold", .number nextThreshold)]
  | collectedForReport live freed => [("live", .number live), ("freed", .number freed)]

/-- The report line of an event. -/
def line (event : Event) : String :=
  event.level.name ++ " " ++ event.target ++ ": " ++ event.message ++
    String.join (event.fields.map fun field => " " ++ field.1 ++ "=" ++ field.2.render)

end Event

end Metamodel
