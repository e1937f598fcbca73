import Metamodel.Heap.Sweeping
import Metamodel.Image.Basic

/-!
# Collection

A collection keeps what can be reached from the built-in classes, the pinned objects and the
roots given with it, and frees all else. It can be made at any time or only when it is due.
-/

namespace Metamodel.Image

open ImageM

variable [ReentrantMutex]

/-- The roots that hold in every collection, before those given with it. -/
def standingRoots (image : Image) : List ObjectId :=
  image.builtins.toList ++ image.heap.pinned

/-- Free what neither the standing roots nor the given ones reach. -/
def collectHeap (roots : List ObjectId) : ImageM Tally := fun image =>
  let (tally, heap) := image.heap.collect (image.standingRoots ++ roots)
  .ok tally { image with heap }

/-- Collect and report the outcome. -/
def collect (roots : List ObjectId) : ImageM Tally := locked do
  let tally ← collectHeap roots
  emit (.collected tally.live tally.freed (← view Heap.threshold))
  pure tally

/-- Collect if enough has been allocated since the last time. -/
def collectIfDue (roots : List ObjectId) : ImageM (Option Tally) := locked do
  if ← view Heap.collectionDue then some <$> collect roots else pure none

/-- Protect an object from collection. -/
def pin (object : ObjectId) : ImageM Unit := locked fun image =>
  match image.heap.pin object with
  | .ok heap => .ok () { image with heap }
  | .error fault => .error fault image

/-- Take a pin back and tell whether there was one. -/
def unpin (object : ObjectId) : ImageM Bool := locked fun image =>
  let (pinned, heap) := image.heap.unpin object
  .ok pinned { image with heap }

end Metamodel.Image
