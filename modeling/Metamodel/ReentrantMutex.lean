/-!
# Re-entrant mutexes

A mutex whose holder may take it again, and gives it up when it has released it as often as it has
taken it. The mutex comes from outside: only what is documented of it is known, as laws.

## Implementation notes

Operations run one at a time, on behalf of one holder, so a state of the mutex is a state between
two operations. The class has no parameters: a statement about images is about any mutex.
-/

namespace Metamodel

/-- Who asks for a mutex: the one on whose behalf operations run, or another. -/
inductive Contender where
  | holder
  | other
  deriving DecidableEq, Inhabited

/-- A mutex that its holder may take more than once. -/
class ReentrantMutex where
  /-- The states between operations. -/
  State : Type
  /-- The mutex as it is made. -/
  new : State
  /-- The mutex once its holder has taken it, for the first time or again. -/
  lock : State → State
  /-- The mutex once its holder has released it. -/
  unlock : State → State
  /-- Whether the mutex is locked. -/
  isLocked : State → Bool
  /-- Whether one who asks for the mutex gets it without waiting. -/
  tryLock : Contender → State → Bool
  /-- A release undoes the taking before it. -/
  unlock_lock : ∀ state, unlock (lock state) = state
  isLocked_new : isLocked new = false
  isLocked_lock : ∀ state, isLocked (lock state) = true
  /-- Anyone gets a mutex that is not locked. -/
  tryLock_of_not_isLocked : ∀ contender state, isLocked state = false → tryLock contender state
  /-- The holder gets the mutex again. -/
  tryLock_holder_lock : ∀ state, tryLock .holder (lock state) = true
  /-- Nobody else gets the mutex while it is held. -/
  tryLock_other_lock : ∀ state, tryLock .other (lock state) = false

end Metamodel
