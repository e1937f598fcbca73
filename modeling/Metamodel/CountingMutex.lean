import Metamodel.ReentrantMutex

/-!
# The counting mutex

The mutex that programs are run with. It counts how often its holder has taken it.
-/

namespace Metamodel

/-- A mutex kept as the number of times that its holder has taken it without releasing it. -/
instance countingMutex : ReentrantMutex where
  State := Nat
  new := 0
  lock := Nat.succ
  unlock := Nat.pred
  isLocked depth := depth != 0
  tryLock
    | .holder, _ => true
    | .other, depth => depth == 0
  unlock_lock _ := rfl
  isLocked_new := rfl
  isLocked_lock _ := rfl
  tryLock_of_not_isLocked
    | .holder, _, _ => rfl
    | .other, 0, _ => rfl
  tryLock_holder_lock _ := rfl
  tryLock_other_lock _ := rfl

end Metamodel
