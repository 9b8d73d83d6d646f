import FaceAnnotator.CommandLine.Arguments
import FaceAnnotator.Host.Basic
/-!
# FaceAnnotator.CommandLine.Paths

**Which file a path means that may not be there yet**, and what must hold of the paths of a command.

What is there of a path is looked up name by name, so links are followed as far as they lead
anywhere. What is not there cannot be a link, so behind it `..` just takes a name away. The result
tells whether the output would be written over the input.
-/

namespace FaceAnnotator.CommandLine

variable {m : Type → Type} [Monad m] {φ : Type}

/-- Where a name leads from a place that may not be there. -/
def enter (h : Host m φ) (place : Location) (segment : String) : m Location :=
  if segment = ".." then pure place.dropLast
  else do
    match ← h.canonicalize (Path.ofLocation (place ++ [segment])) with
    | .ok real => pure real
    | .error _ => pure (place ++ [segment])

/-- Where some names lead, one after the other. -/
def enterAll (h : Host m φ) : Location → List String → m Location
  | place, [] => pure place
  | place, segment :: rest => do
    let place ← enter h place segment
    enterAll h place rest

/-- Where a path is followed from. -/
def startOf (h : Host m φ) (path : Path) : m (Option Location) :=
  if path.absolute then pure (some []) else h.workingDirectory

/-- Where a path leads, whether or not anything is there. -/
def resolvePath (h : Host m φ) (path : Path) : m (Option Location) := do
  match ← startOf h path with
  | none => pure none
  | some start =>
    let place ← enterAll h start path.components
    pure (some place)

/-- Whether the output would be written over the input. -/
def isSameFile (h : Host m φ) (input output : Path) : m Bool := do
  match ← h.canonicalize input with
  | .error _ => pure false
  | .ok real =>
    let place ← resolvePath h output
    pure (place == some real)

/-- Why a command cannot be carried out as it is. -/
inductive Objection where
  /-- Nothing is at the path of the input. -/
  | inputNotFound (input : String)
  /-- Progress cannot be logged after no frames. -/
  | noStep
  /-- The output would be written over the input. -/
  | sameFile (output input : String)
deriving DecidableEq, Repr

/-- The text of an objection. -/
def Objection.message : Objection → String
  | inputNotFound input => s!"Input file not found: {input}"
  | noStep => "--progress-every must be at least 1"
  | sameFile output input => s!"Output must differ from input: {output} is {input}"

/-- Looks for something to object to in a command. -/
def validate (h : Host m φ) (a : Arguments) : m (Except Objection Unit) := do
  if !(← h.pathExists ⟨a.input⟩) then pure (.error (.inputNotFound a.input))
  else if a.progressEvery = 0 then pure (.error .noStep)
  else
    match a.output with
    | none => pure (.ok ())
    | some output =>
      if ← isSameFile h ⟨a.input⟩ ⟨output⟩ then pure (.error (.sameFile output a.input))
      else pure (.ok ())

end FaceAnnotator.CommandLine
