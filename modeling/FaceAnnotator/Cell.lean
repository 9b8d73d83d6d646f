/-!
# FaceAnnotator.Cell

**A place that keeps a value** between the steps of a computation, wherever that place is.

The parts of a run keep what they remember in cells. So the same parts work on a field of a record
that is passed along and on a variable of the surrounding program.
-/

namespace FaceAnnotator

/-- A place that keeps a value. -/
structure Cell (m : Type → Type) (α : Type) where
  /-- What is in the place. -/
  get : m α
  /-- Puts something else there. -/
  set : α → m Unit

namespace Cell

/-- A part of the state that a computation passes along. -/
def ofState {m : Type → Type} [Monad m] {σ α : Type} (view : σ → α) (update : α → σ → σ) :
    Cell (StateT σ m) α where
  get := fun s => pure (view s, s)
  set a := fun s => pure ((), update a s)

end Cell

end FaceAnnotator
