import Metamodel.Text.Blank
import Metamodel.Text.Numeral

/-!
# Settings

How much room a heap starts with and how often it is collected. The environment may replace the
first two values; text that is no 64-bit numeral leaves the default in place.
-/

namespace Metamodel

/-- The values that pace collection. -/
structure Settings where
  /-- The number of slots reserved at the start. -/
  capacity : Nat
  /-- The number of allocations after which the first collection is due. -/
  threshold : Nat
  /-- The least threshold after a collection. -/
  minThreshold : Nat
  deriving DecidableEq, Inhabited

namespace Settings

/-- The settings of an environment that says nothing. -/
def standard : Settings where
  capacity := 1024
  threshold := 100000
  minThreshold := 4096

/-- The number that an environment value gives: a 64-bit numeral between blanks. -/
def number? (value : Option String) : Option Nat :=
  value.bind fun text => Text.numeralBelow? UInt64.size (Text.trim text.toList)

/-- The settings under the given values for capacity and threshold. A threshold is at least
one. -/
def ofEnvironment (capacity threshold : Option String) : Settings where
  capacity := (number? capacity).getD standard.capacity
  threshold := ((number? threshold).map (max 1)).getD standard.threshold
  minThreshold := standard.minThreshold

end Settings

end Metamodel
