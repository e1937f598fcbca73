import Metamodel.ReentrantMutex

/-!
# The structure lock

Every change to the class graph holds this lock, a re-entrant mutex.
-/

namespace Metamodel

/-- The lock of an image. -/
structure StructureLock [ReentrantMutex] where
  inner : ReentrantMutex.State

namespace StructureLock

variable [ReentrantMutex]

/-- The lock before anyone has taken it. -/
def free : StructureLock := ⟨ReentrantMutex.new⟩

/-- Whether anyone holds the lock. -/
def isHeld (lock : StructureLock) : Bool :=
  ReentrantMutex.isLocked lock.inner

/-- The lock taken once more by its holder. -/
def acquire (lock : StructureLock) : StructureLock :=
  ⟨ReentrantMutex.lock lock.inner⟩

/-- The lock released once by its holder. -/
def release (lock : StructureLock) : StructureLock :=
  ⟨ReentrantMutex.unlock lock.inner⟩

/-- Whether a contender gets the lock at once. -/
def admits (lock : StructureLock) (contender : Contender) : Bool :=
  ReentrantMutex.tryLock contender lock.inner

@[simp] theorem release_acquire (lock : StructureLock) : lock.acquire.release = lock := by
  unfold acquire release
  rw [ReentrantMutex.unlock_lock]

end StructureLock

end Metamodel
