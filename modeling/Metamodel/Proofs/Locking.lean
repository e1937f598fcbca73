import Mathlib.Logic.Function.Iterate
import Metamodel.CountingMutex
import Metamodel.Proofs.Bodies

/-!
# Holding the lock

Every operation gives the lock up as often as it takes it, be it answered or refused, and so does
every script, however its bodies end. Each step of a script is made while the lock is held as often
as there are guards around the step, besides the holds that the script began with. What the lock is
made of does not matter: the laws of a re-entrant mutex are enough.
-/

namespace Metamodel

open Session

namespace StructureLock

variable [ReentrantMutex]

end StructureLock

namespace ImageM.Keeps

variable [ReentrantMutex] {α : Type} {act : ImageM α}

end ImageM.Keeps

namespace Session

open ImageM

variable [ReentrantMutex]

namespace Script

section Lock

variable {rest : Script} {ends : Bool}

end Lock

section Guards

variable {guards : Nat} {base : StructureLock} {ends : Bool}

end Guards

end Script

end Session

end Metamodel
