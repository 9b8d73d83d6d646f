import FaceAnnotator.Recording.LineWriter
/-!
# FaceAnnotator.Proofs.Recording.Memory

**Writing lines into a memory of limited size.**

A memory keeps the first bytes of all that was ever written to it, as many as it has room for
(`clip`). In which pieces they come makes no difference to what is kept
(`Memory.writeAll_of_not_admits`), only to where the writing stops. From that follows what becomes
of one frame: it is stored whole, or all but its line feed, or not even that.
-/

namespace FaceAnnotator

/-- Whether so many bytes find room within a capacity. -/
def Admits (capacity : Option Nat) (size : Nat) : Prop := ∀ limit ∈ capacity, size ≤ limit

@[simp] theorem admits_none (size : Nat) : Admits none size := fun _ h => nomatch h

@[simp] theorem admits_some (limit size : Nat) : Admits (some limit) size ↔ size ≤ limit :=
  ⟨fun h => h limit rfl, fun h _ eq => Option.mem_some.1 eq ▸ h⟩

instance (capacity : Option Nat) (size : Nat) : Decidable (Admits capacity size) :=
  match capacity with
  | none => isTrue (admits_none size)
  | some limit => decidable_of_iff (size ≤ limit) (admits_some limit size).symm

/-- As many of some bytes, from the first on, as find room within a capacity. -/
def clip : Option Nat → List UInt8 → List UInt8
  | none, bytes => bytes
  | some limit, bytes => bytes.take limit

theorem Admits.mono {capacity : Option Nat} {size smaller : Nat} (h : Admits capacity size)
    (le : smaller ≤ size) : Admits capacity smaller :=
  fun limit mem => Nat.le_trans le (h limit mem)

theorem clip_of_admits {capacity : Option Nat} {bytes : List UInt8}
    (h : Admits capacity bytes.length) : clip capacity bytes = bytes := by
  cases capacity with
  | none => rfl
  | some limit => exact List.take_of_length_le ((admits_some _ _).1 h)

/-- What did not fit before hides everything that comes behind it. -/
theorem clip_append_of_not_admits {capacity : Option Nat} {bytes : List UInt8}
    (h : ¬Admits capacity bytes.length) (more : List UInt8) :
    clip capacity (bytes ++ more) = clip capacity bytes := by
  cases capacity with
  | none => exact absurd (admits_none _) h
  | some limit =>
      rw [admits_some] at h
      exact List.take_append_of_le_length (by omega)

namespace Memory

/-- The memory with other bytes in it. -/
def keep (memory : Memory) (bytes : List UInt8) : Memory := { memory with bytes := bytes }

@[simp] theorem bytes_keep (memory : Memory) (bytes : List UInt8) :
    (memory.keep bytes).bytes = bytes := rfl
@[simp] theorem capacity_keep (memory : Memory) (bytes : List UInt8) :
    (memory.keep bytes).capacity = memory.capacity := rfl
@[simp] theorem keep_keep (memory : Memory) (bytes others : List UInt8) :
    (memory.keep bytes).keep others = memory.keep others := rfl
@[simp] theorem keep_bytes (memory : Memory) : memory.keep memory.bytes = memory := rfl

/-- Bytes that find room are stored behind the others. -/
theorem write_of_admits {memory : Memory} {bytes : List UInt8}
    (h : Admits memory.capacity (memory.bytes ++ bytes).length) :
    memory.write bytes = (.ok (), memory.keep (memory.bytes ++ bytes)) := by
  have all : bytes.length ≤ memory.fitting bytes := by
    unfold fitting
    cases eq : memory.capacity with
    | none => exact Nat.le_refl _
    | some limit =>
        rw [eq, admits_some, List.length_append] at h
        simp only
        omega
  simp [write, keep, List.drop_of_length_le all, List.take_of_length_le all]

/-- Of bytes that find no room the first ones are stored all the same. -/
theorem write_of_not_admits {memory : Memory} {bytes : List UInt8}
    (before : Admits memory.capacity memory.bytes.length)
    (h : ¬Admits memory.capacity (memory.bytes ++ bytes).length) :
    ∃ rest, memory.write bytes =
      (.error ⟨full, rest⟩, memory.keep (clip memory.capacity (memory.bytes ++ bytes))) := by
  cases eq : memory.capacity with
  | none => exact absurd (by rw [eq]; exact admits_none _) h
  | some limit =>
      rw [eq, admits_some] at before h
      rw [List.length_append] at h
      have some_left : bytes.drop (limit - memory.bytes.length) ≠ [] := by
        simp only [ne_eq, List.drop_eq_nil_iff]
        omega
      refine ⟨bytes.drop (limit - memory.bytes.length), ?_⟩
      have fitting_eq : memory.fitting bytes = limit - memory.bytes.length := by
        simp [fitting, eq]
      unfold write
      rw [fitting_eq]
      split
      · rename_i none_left
        exact absurd none_left some_left
      · simp [keep, clip, List.take_append, List.take_of_length_le before]

variable {m : Type → Type} [Monad m]

theorem write_device (memory : Memory) (bytes : List UInt8) :
    (device (m := m)).write memory bytes = pure (memory.write bytes) := rfl

variable [LawfulMonad m]

/-- Chunks that all find room are stored one behind the other. -/
theorem writeAll_of_admits {memory : Memory} {chunks : List (List UInt8)}
    (h : Admits memory.capacity (memory.bytes ++ chunks.flatten).length) :
    (device (m := m)).writeAll memory chunks =
      pure (.ok (), memory.keep (memory.bytes ++ chunks.flatten)) := by
  induction chunks generalizing memory with
  | nil => simp [Device.writeAll]
  | cons chunk chunks ih =>
      have first : Admits memory.capacity (memory.bytes ++ chunk).length :=
        h.mono (by simp only [List.flatten_cons, List.length_append]; omega)
      let next := memory.keep (memory.bytes ++ chunk)
      have rest : Admits next.capacity (next.bytes ++ chunks.flatten).length := by
        simpa [next] using h
      have later := ih rest
      rw [Device.writeAll, write_device, write_of_admits first, pure_bind]
      simpa [next] using later

/-- Of chunks that do not all find room the first bytes are stored, as many as there is room for. -/
theorem writeAll_of_not_admits {memory : Memory} {chunks : List (List UInt8)}
    (before : Admits memory.capacity memory.bytes.length)
    (h : ¬Admits memory.capacity (memory.bytes ++ chunks.flatten).length) :
    ∃ rest, (device (m := m)).writeAll memory chunks =
      pure (.error ⟨full, rest⟩,
        memory.keep (clip memory.capacity (memory.bytes ++ chunks.flatten))) := by
  induction chunks generalizing memory with
  | nil => exact absurd (by simpa using before) h
  | cons chunk chunks ih =>
      -- The chunk that finds no room is either this one, or one behind it.
      by_cases first : Admits memory.capacity (memory.bytes ++ chunk).length
      · let next := memory.keep (memory.bytes ++ chunk)
        have beyond : ¬Admits next.capacity (next.bytes ++ chunks.flatten).length := by
          simpa [next] using h
        obtain ⟨rest, later⟩ := ih first beyond
        refine ⟨rest, ?_⟩
        rw [Device.writeAll, write_device, write_of_admits first, pure_bind]
        simpa [next] using later
      · obtain ⟨rest, step⟩ := write_of_not_admits before first
        refine ⟨rest, ?_⟩
        rw [Device.writeAll, write_device, step, pure_bind, List.flatten_cons, ← List.append_assoc,
          clip_append_of_not_admits first]

end Memory

/-! ### Frames -/

/-- The bytes of a frame on a line of its own. -/
def Frame.line (f : Frame) : List UInt8 := Text.encode f.json ++ lineEnd

theorem Frame.flatten_chunks (f : Frame) : f.chunks.flatten = Text.encode f.json := by
  simp only [chunks, json]
  generalize f.pieces = pieces
  induction pieces with
  | nil => rfl
  | cons piece pieces ih => simp [ih]

/-- Why a frame finds no room behind so many bytes; nothing if it does. -/
def Frame.misfit (f : Frame) (capacity : Option Nat) (used : Nat) : Option RecordingFault :=
  if Admits capacity (used + f.line.length) then none
  else if Admits capacity (used + (Text.encode f.json).length) then some (.unwritable Memory.full)
  else some (.unstored f.index Memory.full)

/-- What comes of writing, given what went wrong. -/
def outcomeOf : Option RecordingFault → Except RecordingFault Unit
  | none => .ok ()
  | some fault => .error fault

/-- Writing a frame keeps of its line what there is room for, and fails if that is not all of it. -/
theorem LineWriter.write_memory {m : Type → Type} [Monad m] [LawfulMonad m] {memory : Memory}
    (before : Admits memory.capacity memory.bytes.length) (f : Frame) :
    LineWriter.write (m := m) Memory.device ⟨true, memory⟩ f =
      pure (outcomeOf (f.misfit memory.capacity memory.bytes.length),
        ⟨true, memory.keep (clip memory.capacity (memory.bytes ++ f.line))⟩) := by
  have text := f.flatten_chunks
  have long : (memory.bytes ++ f.line).length = memory.bytes.length + f.line.length :=
    List.length_append
  have line_eq : memory.bytes ++ f.line = memory.bytes ++ f.chunks.flatten ++ lineEnd := by
    rw [text, Frame.line, List.append_assoc]
  unfold LineWriter.write
  rw [if_pos rfl]
  -- The text and the line feed are written one after the other, and either may find no room.
  by_cases stored : Admits memory.capacity (memory.bytes ++ f.chunks.flatten).length
  · rw [Memory.writeAll_of_admits stored, pure_bind]
    by_cases ended : Admits memory.capacity (memory.bytes ++ f.line).length
    · have fits : f.misfit memory.capacity memory.bytes.length = none := by
        rw [Frame.misfit, if_pos (long ▸ ended)]
      rw [line_eq] at ended
      rw [fits, clip_of_admits (line_eq ▸ ended)]
      simp only [Memory.write_device]
      rw [Memory.write_of_admits (by simpa using ended), pure_bind, line_eq]
      simp [outcomeOf]
    · have misfit : f.misfit memory.capacity memory.bytes.length =
          some (.unwritable Memory.full) := by
        rw [text, List.length_append] at stored
        rw [Frame.misfit, if_neg (long ▸ ended), if_pos stored]
      rw [line_eq] at ended
      let held := memory.keep (memory.bytes ++ f.chunks.flatten)
      have room : Admits held.capacity held.bytes.length := by simpa [held] using stored
      have beyond : ¬Admits held.capacity (held.bytes ++ lineEnd).length := by
        simpa [held] using ended
      obtain ⟨rest, step⟩ := Memory.write_of_not_admits room beyond
      simp only [Memory.write_device]
      rw [step, pure_bind, misfit, line_eq]
      simp [held, outcomeOf]
  · have misfit :
        f.misfit memory.capacity memory.bytes.length = some (.unstored f.index Memory.full) := by
      have ended : ¬Admits memory.capacity (memory.bytes.length + f.line.length) := fun h =>
        stored (h.mono (by simp only [Frame.line, text, List.length_append]; omega))
      rw [text, List.length_append] at stored
      rw [Frame.misfit, if_neg ended, if_neg stored]
    obtain ⟨rest, step⟩ := Memory.writeAll_of_not_admits (m := m) before stored
    rw [step, pure_bind, misfit, line_eq, clip_append_of_not_admits stored]
    rfl

/-- What comes of closing a writer over a memory. -/
def Memory.closing (memory : Memory) : Except RecordingFault Unit :=
  outcomeOf (memory.flushFault.map RecordingFault.unwritable)

/-- Closing fails if flushing does, and the writer is closed all the same. -/
theorem LineWriter.close_memory {m : Type → Type} [Monad m] [LawfulMonad m] (memory : Memory) :
    LineWriter.close (m := m) Memory.device ⟨true, memory⟩ =
      pure (memory.closing, ⟨false, memory⟩) := by
  unfold LineWriter.close Memory.closing
  cases fault : memory.flushFault <;> simp [Memory.device, Memory.flush, fault, outcomeOf]

/-! ### Closed writers -/

namespace LineWriter

variable {m : Type → Type} [Monad m] {δ : Type} {v : LineWriter δ}

/-- A closed writer refuses frames without asking its device. -/
theorem write_of_closed (shut : v.isOpen = false) (d : Device m δ) (f : Frame) :
    v.write d f = pure (.error .closed, v) := by
  rw [write, if_neg (by simp [shut])]

/-- A closed writer is closed again without asking its device. -/
theorem close_of_closed (shut : v.isOpen = false) (d : Device m δ) :
    v.close d = pure (.ok (), v) := by
  rw [close, if_neg (by simp [shut])]

end LineWriter

/-! ### Misfits -/

/-- Without a misfit the line is stored whole. -/
theorem Frame.admits_of_misfit_eq_none {f : Frame} {capacity : Option Nat} {used : Nat}
    (h : f.misfit capacity used = none) : Admits capacity (used + f.line.length) := by
  unfold misfit at h
  split at h
  · assumption
  · split at h <;> contradiction

/-- Every misfit is for want of room. -/
theorem Frame.not_admits_of_misfit_eq_some {f : Frame} {capacity : Option Nat} {used : Nat}
    {fault : RecordingFault} (h : f.misfit capacity used = some fault) :
    ¬Admits capacity (used + f.line.length) := by
  unfold misfit at h
  split at h
  · contradiction
  · assumption

end FaceAnnotator
