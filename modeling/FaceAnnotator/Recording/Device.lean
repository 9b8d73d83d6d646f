import FaceAnnotator.FileSystem.Basic
/-!
# FaceAnnotator.Recording.Device

**Devices that store bytes.**

A `Device` over a state is three operations on that state. `write` either stores all bytes or says
why it did not, and which bytes are left over. Two devices are made here from nothing else:

* `Memory.device` keeps bytes in memory, up to a capacity;
* `buffered` puts a buffer in front of another device, so that small writes reach it together.
-/

namespace FaceAnnotator

/-- Why bytes were not stored. -/
structure Refusal where
  /-- The cause. -/
  cause : SystemError
  /-- The bytes that are left over. -/
  rest : List UInt8
deriving DecidableEq, Repr

/-- Operations that store bytes in a state. -/
structure Device (m : Type → Type) (δ : Type) where
  /-- Stores bytes behind all others. -/
  write : δ → List UInt8 → m (Except Refusal Unit × δ)
  /-- Brings everything that was written to its place. -/
  flush : δ → m (Except SystemError Unit × δ)
  /-- What happens when nobody needs the device any more. -/
  release : δ → m δ

namespace Device

variable {m : Type → Type} {δ : Type}

/-- Stores some chunks, one after the other, up to the first that is refused. -/
def writeAll [Monad m] (d : Device m δ) : δ → List (List UInt8) → m (Except Refusal Unit × δ)
  | state, [] => pure (.ok (), state)
  | state, chunk :: chunks => do
    match ← d.write state chunk with
    | (.error refusal, state) => pure (.error refusal, state)
    | (.ok _, state) => writeAll d state chunks

end Device

/-! ### Memory -/

/-- Bytes in memory. -/
structure Memory where
  /-- The bytes that were stored. -/
  bytes : List UInt8 := []
  /-- How many bytes there is room for, if not for any number. -/
  capacity : Option Nat := none
  /-- Why flushing fails, if it does. -/
  flushFault : Option SystemError := none
deriving DecidableEq, Repr

namespace Memory

/-- Why nothing more goes into a full memory. -/
def full : SystemError := .other "sink full"

/-- How many of some bytes there is room for. -/
def fitting (memory : Memory) (bytes : List UInt8) : Nat :=
  match memory.capacity with
  | none => bytes.length
  | some capacity => capacity - memory.bytes.length

/-- Stores bytes as far as there is room. -/
def write (memory : Memory) (bytes : List UInt8) : Except Refusal Unit × Memory :=
  let stored := { memory with bytes := memory.bytes ++ bytes.take (memory.fitting bytes) }
  match bytes.drop (memory.fitting bytes) with
  | [] => (.ok (), stored)
  | rest => (.error ⟨full, rest⟩, stored)

/-- Flushing changes nothing. -/
def flush (memory : Memory) : Except SystemError Unit × Memory :=
  match memory.flushFault with
  | none => (.ok (), memory)
  | some fault => (.error fault, memory)

/-- Memory as a device. -/
def device {m : Type → Type} [Monad m] : Device m Memory where
  write memory bytes := pure (memory.write bytes)
  flush memory := pure memory.flush
  release memory := pure memory

/-- What is stored goes behind what was there before. -/
theorem bytes_write (memory : Memory) (bytes : List UInt8) :
    (memory.write bytes).2.bytes = memory.bytes ++ bytes.take (memory.fitting bytes) := by
  unfold write
  split <;> rfl

end Memory

/-! ### Buffers -/

/-- A buffer in front of a device. -/
structure Buffered (δ : Type) where
  /-- The bytes that the device has not got yet. -/
  held : List UInt8 := []
  /-- The state of the device. -/
  inner : δ

namespace Buffered

variable {m : Type → Type} [Monad m] {δ : Type}

/-- How many bytes a buffer holds at most. -/
def capacity : Nat := 8192

/-- Hands over what is held. What the device refuses stays in the buffer. -/
def empty (d : Device m δ) (b : Buffered δ) : m (Except SystemError Unit × Buffered δ) := do
  match ← d.write b.inner b.held with
  | (.ok _, inner) => pure (.ok (), ⟨[], inner⟩)
  | (.error refusal, inner) => pure (.error refusal.cause, ⟨refusal.rest, inner⟩)

/-- Hands over what is held unless there is room for more bytes beside it. -/
def makeRoom (d : Device m δ) (b : Buffered δ) (more : Nat) :
    m (Except SystemError Unit × Buffered δ) :=
  if capacity - b.held.length < more then b.empty d else pure (.ok (), b)

/-- Puts bytes into the buffer. Bytes that would fill it on their own pass it by. -/
def write (d : Device m δ) (b : Buffered δ) (bytes : List UInt8) :
    m (Except Refusal Unit × Buffered δ) := do
  match ← b.makeRoom d bytes.length with
  | (.error cause, b) => pure (.error ⟨cause, bytes⟩, b)
  | (.ok _, b) =>
    if bytes.length < capacity then pure (.ok (), { b with held := b.held ++ bytes })
    else
      -- Nothing is held here: so many bytes found no room beside anything else.
      let (outcome, inner) ← d.write b.inner bytes
      pure (outcome, { b with inner := inner })

/-- Empties the buffer and flushes the device behind it. -/
def flush (d : Device m δ) (b : Buffered δ) : m (Except SystemError Unit × Buffered δ) := do
  match ← b.empty d with
  | (.error cause, b) => pure (.error cause, b)
  | (.ok _, b) =>
    let (outcome, inner) ← d.flush b.inner
    pure (outcome, { b with inner := inner })

/-- Empties the buffer as far as that works, and lets the device go. -/
def release (d : Device m δ) (b : Buffered δ) : m (Buffered δ) := do
  let (_, b) ← b.empty d
  let inner ← d.release b.inner
  pure { b with inner := inner }

end Buffered

/-- A device with a buffer in front of it. -/
def buffered {m : Type → Type} [Monad m] {δ : Type} (d : Device m δ) : Device m (Buffered δ) where
  write b bytes := b.write d bytes
  flush b := b.flush d
  release b := b.release d

end FaceAnnotator
