import Metamodel.PinTable

/-!
# References

A step of a session refers to an object by its id or by a handle, a name bound to an id. A handle
keeps its id whatever becomes of the object.
-/

namespace Metamodel.Session

/-- How a step refers to an object. -/
inductive Reference where
  | slot (id : ObjectId)
  | handle (name : String)
  deriving DecidableEq, Inhabited

/-- The bound handles, each with its id. -/
abbrev Bindings := List (String × ObjectId)

namespace Bindings

/-- The handles other than one. -/
def unbind (bindings : Bindings) (name : String) : Bindings :=
  bindings.filter fun binding => binding.1 != name

/-- Bind a handle, whether it was bound before or not. -/
def bind (bindings : Bindings) (name : String) (id : ObjectId) : Bindings :=
  (name, id) :: bindings.unbind name

/-- Bind a handle to an id or leave it without one. -/
def rebind (bindings : Bindings) (name : String) : Option ObjectId → Bindings
  | some id => bindings.bind name id
  | none => bindings.unbind name

/-- A handle that is bound again, or left without an id, is what it was made to be. The others are
as they were. -/
theorem lookup_rebind (bindings : Bindings) (name other : String) (id : Option ObjectId) :
    (bindings.rebind name id).lookup other =
      if other = name then id else bindings.lookup other := by
  have rest := lookup_filter_ne bindings name other
  cases id with
  | none => exact rest
  | some id =>
      rw [rebind, bind, List.lookup_cons]
      by_cases same : other = name
      · subst same
        simp
      · rw [beq_eq_false_iff_ne.mpr same, if_neg same]
        exact rest.trans (if_neg same)

end Bindings

/-- The id that a reference stands for, or the name of a handle that is not bound. -/
def Reference.resolve (bindings : Bindings) : Reference → Except String ObjectId
  | .slot id => .ok id
  | .handle name =>
      match bindings.lookup name with
      | some id => .ok id
      | none => .error name

end Metamodel.Session
