import FaceAnnotator.Proofs.Recording.Framing
import FaceAnnotator.Proofs.Recording.Memory
/-!
# FaceAnnotator.Proofs.Recording.Calls

**A writer over a memory of limited size**, asked to write and to close in any order.

The history of the calls tells everything. Until the first closing each frame adds its line, whether
it was stored or not, and the memory holds the first bytes of those lines, as many as it has room
for (`LineWriter.after`). So a frame that was torn leaves no room for any other, and what a call
comes to (`WriterCall.due`) depends on the lines before it and on nothing else. One call keeps to
that (`LineWriter.answer_after`), and with it all calls do.

What is in the memory in the middle of a call is seen by a device that does the same and takes notes
(`Watched.device`). A writer cannot tell the two apart (`Device.Extends.answers`).
-/

namespace FaceAnnotator

/-! ### Clipping -/

theorem admits_length_clip (capacity : Option Nat) (bytes : List UInt8) :
    Admits capacity (clip capacity bytes).length := by
  cases capacity with
  | none => exact admits_none _
  | some limit =>
      rw [admits_some, clip, List.length_take]
      exact Nat.min_le_left _ _

/-- What was clipped before may be forgotten before more is added. -/
theorem clip_clip_append (capacity : Option Nat) (bytes more : List UInt8) :
    clip capacity (clip capacity bytes ++ more) = clip capacity (bytes ++ more) := by
  by_cases room : Admits capacity bytes.length
  · rw [clip_of_admits room]
  · rw [clip_append_of_not_admits room]
    cases capacity with
    | none => exact absurd (admits_none _) room
    | some limit =>
        rw [admits_some, Nat.not_le] at room
        simp [clip, room.le]

namespace Frame

theorem encode_json_ne_nil (f : Frame) : Text.encode f.json ≠ [] :=
  fun h => f.json_ne_nil (Text.encode_injective (h.trans Text.encode_nil.symm))

theorem length_line (f : Frame) : f.line.length = (Text.encode f.json).length + 1 := by
  rw [line, List.length_append]
  rfl

/-- Whether a frame finds room is the same behind the bytes that were written and behind those
that were kept. -/
theorem misfit_length_clip (f : Frame) (capacity : Option Nat) (bytes : List UInt8) :
    f.misfit capacity (clip capacity bytes).length = f.misfit capacity bytes.length := by
  by_cases room : Admits capacity bytes.length
  · rw [clip_of_admits room]
  · -- The memory is full, and the text of a frame needs at least one byte.
    have some_text : 0 < (Text.encode f.json).length := List.length_pos_iff.2 f.encode_json_ne_nil
    have longer := f.length_line
    cases capacity with
    | none => exact absurd (admits_none _) room
    | some limit =>
        rw [admits_some] at room
        have filled : (clip (some limit) bytes).length = limit := by
          rw [clip, List.length_take]
          omega
        simp only [misfit, admits_some, filled]
        rw [if_neg (by omega), if_neg (by omega), if_neg (by omega), if_neg (by omega)]

/-- A frame is stored whole, or all but its line feed, or not even all of its text. -/
theorem outcome_cases (f : Frame) (capacity : Option Nat) (used : Nat) :
    (outcomeOf (f.misfit capacity used) = .ok () ↔ Admits capacity (used + f.line.length)) ∧
    (outcomeOf (f.misfit capacity used) = .error (.unwritable Memory.full) ↔
      Admits capacity (used + (Text.encode f.json).length) ∧
      ¬Admits capacity (used + f.line.length)) ∧
    (outcomeOf (f.misfit capacity used) = .error (.unstored f.index Memory.full) ↔
      ¬Admits capacity (used + (Text.encode f.json).length)) := by
  have shorter : (Text.encode f.json).length ≤ f.line.length := by rw [f.length_line]; omega
  unfold misfit
  by_cases whole : Admits capacity (used + f.line.length)
  · have text : Admits capacity (used + (Text.encode f.json).length) := whole.mono (by omega)
    simp [whole, text, outcomeOf]
  · by_cases text : Admits capacity (used + (Text.encode f.json).length) <;>
      simp [whole, text, outcomeOf]

end Frame

/-! ### Calls -/

/-- What a writer can be asked for. -/
inductive WriterCall where
  /-- To write a frame. -/
  | write (f : Frame)
  /-- To close. -/
  | close
deriving DecidableEq

namespace WriterCall

/-- The frames of the calls before the first closing. -/
def attempted : List WriterCall → List Frame
  | [] => []
  | write f :: calls => f :: attempted calls
  | close :: _ => []

/-- The lines of those frames, one behind the other. -/
def lines (calls : List WriterCall) : List UInt8 := (attempted calls).flatMap Frame.line

variable {calls : List WriterCall}

theorem attempted_append (more : List WriterCall) :
    attempted (calls ++ more) =
      if close ∈ calls then attempted calls else attempted calls ++ attempted more := by
  induction calls with
  | nil => rfl
  | cons call calls ih =>
      cases call with
      | write f =>
          simp only [List.cons_append, attempted, List.mem_cons, reduceCtorEq, false_or, ih]
          split <;> rfl
      | close => simp [attempted]

theorem lines_append_of_close_mem (shut : close ∈ calls) (more : List WriterCall) :
    lines (calls ++ more) = lines calls := by
  rw [lines, attempted_append, if_pos shut, lines]

theorem lines_append_write (still_open : close ∉ calls) (f : Frame) :
    lines (calls ++ [write f]) = lines calls ++ f.line := by
  rw [lines, attempted_append, if_neg still_open, lines]
  simp [attempted]

theorem lines_append_close : lines (calls ++ [close]) = lines calls := by
  simp [lines, attempted_append, attempted]

/-- What a call comes to after others. -/
def due (capacity : Option Nat) (flushFault : Option SystemError) (before : List WriterCall) :
    WriterCall → Except RecordingFault Unit
  | write f =>
    if close ∈ before then .error .closed else outcomeOf (f.misfit capacity (lines before).length)
  | close => if close ∈ before then .ok () else outcomeOf (flushFault.map .unwritable)

end WriterCall

namespace LineWriter

section Answers

variable {m : Type → Type} [Monad m] {δ : Type} (d : Device m δ)

/-- Does what a call asks for. -/
def answer (w : LineWriter δ) : WriterCall → m (Except RecordingFault Unit × LineWriter δ)
  | .write f => w.write d f
  | .close => w.close d

/-- Does what calls ask for, one after the other. What each of them comes to is told together with
the state in which it leaves the device. -/
def answers : LineWriter δ → List WriterCall → m (List (Except RecordingFault Unit × δ))
  | _, [] => pure []
  | w, call :: calls => do
    let (outcome, next) ← w.answer d call
    let others ← answers next calls
    pure ((outcome, next.device) :: others)

end Answers

end LineWriter

/-! ### Devices that do more than another one -/

section Extends

variable {m : Type → Type} [Monad m] {δ δ' : Type}

/-- A device that does to a part of its state what another one does to the whole of its own. -/
structure Device.Extends (d' : Device m δ') (d : Device m δ) (forget : δ' → δ) : Prop where
  write : ∀ s bytes, d.write (forget s) bytes = Prod.map id forget <$> d'.write s bytes
  flush : ∀ s, d.flush (forget s) = Prod.map id forget <$> d'.flush s
  release : ∀ s, d.release (forget s) = forget <$> d'.release s

/-- The writer over a part of the state of its device. -/
def LineWriter.map (forget : δ' → δ) (w : LineWriter δ') : LineWriter δ :=
  ⟨w.isOpen, forget w.device⟩

variable [LawfulMonad m] {d' : Device m δ'} {d : Device m δ} {forget : δ' → δ}

namespace Device.Extends

theorem writeAll (h : d'.Extends d forget) (s : δ') (chunks : List (List UInt8)) :
    d.writeAll (forget s) chunks = Prod.map id forget <$> d'.writeAll s chunks := by
  induction chunks generalizing s with
  | nil => simp [Device.writeAll]
  | cons chunk chunks ih =>
      rw [Device.writeAll, Device.writeAll, h.write, bind_map_left, map_bind]
      refine bind_congr fun result => ?_
      obtain ⟨outcome, s'⟩ := result
      cases outcome with
      | error refusal => simp
      | ok _ => exact ih s'

theorem answer (h : d'.Extends d forget) (w : LineWriter δ') (call : WriterCall) :
    (w.map forget).answer d call = Prod.map id (LineWriter.map forget) <$> w.answer d' call := by
  obtain ⟨isOpen, s⟩ := w
  cases isOpen with
  | false =>
      cases call <;> simp [LineWriter.map, LineWriter.answer, LineWriter.write, LineWriter.close]
  | true =>
      cases call with
      | write f =>
          simp only [LineWriter.answer, LineWriter.map, LineWriter.write, if_true, h.writeAll,
            bind_map_left, map_bind]
          refine bind_congr fun result => ?_
          obtain ⟨outcome, s'⟩ := result
          cases outcome with
          | error refusal => simp [LineWriter.map]
          | ok _ =>
              simp only [Prod.map, id, h.write, bind_map_left, map_bind]
              refine bind_congr fun result => ?_
              obtain ⟨outcome, s'⟩ := result
              cases outcome <;> simp [LineWriter.map]
      | close =>
          simp only [LineWriter.answer, LineWriter.map, LineWriter.close, if_true, h.flush,
            bind_map_left, map_bind]
          refine bind_congr fun result => ?_
          obtain ⟨outcome, s'⟩ := result
          simp only [Prod.map, id, h.release, bind_map_left]
          refine bind_congr fun s' => ?_
          cases outcome <;> simp [LineWriter.map]

theorem answers (h : d'.Extends d forget) (w : LineWriter δ') (calls : List WriterCall) :
    (w.map forget).answers d calls = List.map (Prod.map id forget) <$> w.answers d' calls := by
  induction calls generalizing w with
  | nil => simp [LineWriter.answers]
  | cons call calls ih =>
      simp only [LineWriter.answers, h.answer, bind_map_left, map_bind]
      refine bind_congr fun result => ?_
      obtain ⟨outcome, next⟩ := result
      simp only [Prod.map, id, ih, bind_map_left, map_pure, List.map_cons]
      rfl

end Device.Extends

end Extends

/-! ### Watching a memory -/

/-- A memory, and what was in it after each operation on it. -/
structure Watched where
  memory : Memory
  /-- What was in the memory, the latest last. -/
  moments : List (List UInt8) := []
  /-- Nothing ever leaves the memory. -/
  grows : ∀ content ∈ moments, content <+: memory.bytes

namespace Watched

/-- Nothing was noted yet. -/
def new (memory : Memory) : Watched := ⟨memory, [], nofun⟩

/-- Notes what is in the memory now. -/
def note (w : Watched) (memory : Memory) (longer : w.memory.bytes <+: memory.bytes) : Watched where
  memory := memory
  moments := w.moments ++ [memory.bytes]
  grows content mem := by
    rcases List.mem_append.1 mem with mem | mem
    · exact (w.grows content mem).trans longer
    · obtain rfl := List.mem_singleton.1 mem
      exact List.prefix_rfl

/-- A memory as a device that is watched. -/
def device {m : Type → Type} [Monad m] : Device m Watched where
  write w bytes :=
    pure ((w.memory.write bytes).1, w.note (w.memory.write bytes).2 (by
      rw [Memory.bytes_write]
      exact List.prefix_append _ _))
  flush w := pure (w.memory.flush.1, w.note w.memory.flush.2 (by
    rw [Memory.flush]
    split <;> exact List.prefix_rfl))
  release w := pure w

theorem device_extends {m : Type → Type} [Monad m] [LawfulMonad m] :
    (device (m := m)).Extends Memory.device Watched.memory where
  write s bytes := by simp [device, Memory.device, note]
  flush s := by simp [device, Memory.device, note]
  release s := by simp [device, Memory.device]

end Watched
/-! ### Calls over a memory -/

namespace LineWriter

/-- A writer over an empty memory, after some calls. -/
def after (capacity : Option Nat) (flushFault : Option SystemError) (calls : List WriterCall) :
    LineWriter Memory where
  isOpen := decide (.close ∉ calls)
  device :=
    { bytes := clip capacity (WriterCall.lines calls), capacity := capacity,
      flushFault := flushFault }

theorem after_nil (capacity : Option Nat) (flushFault : Option SystemError) :
    after capacity flushFault [] =
      { device := { capacity := capacity, flushFault := flushFault } } := by
  cases capacity <;> simp [after, clip, WriterCall.lines, WriterCall.attempted]

section Memory

variable {m : Type → Type} [Monad m] [LawfulMonad m]

variable (capacity : Option Nat) (flushFault : Option SystemError)

/-- **One call** comes to what is due after the calls before it, and becomes the last of them. -/
theorem answer_after (before : List WriterCall) (call : WriterCall) :
    (after capacity flushFault before).answer (m := m) Memory.device call =
      pure (call.due capacity flushFault before, after capacity flushFault (before ++ [call])) := by
  by_cases shut : .close ∈ before
  · have closed : (after capacity flushFault before).isOpen = false := by simp [after, shut]
    have same : after capacity flushFault (before ++ [call]) =
        after capacity flushFault before := by
      simp [after, shut, WriterCall.lines_append_of_close_mem shut]
    rw [same]
    cases call with
    | write f => rw [answer, write_of_closed closed, WriterCall.due, if_pos shut]
    | close => rw [answer, close_of_closed closed, WriterCall.due, if_pos shut]
  · have still_open : after capacity flushFault before =
        ⟨true, (after capacity flushFault before).device⟩ := by
      simp [after, shut]
    rw [still_open]
    cases call with
    | write f =>
        rw [answer, write_memory (admits_length_clip _ _), WriterCall.due, if_neg shut]
        simp [after, shut, Memory.keep, Frame.misfit_length_clip, clip_clip_append,
          WriterCall.lines_append_write shut]
    | close =>
        rw [answer, close_memory, WriterCall.due, if_neg shut]
        simp [after, Memory.closing, WriterCall.lines_append_close]

/-- What calls come to after others, by their history. -/
def told (before : List WriterCall) : List WriterCall → List (Except RecordingFault Unit × Memory)
  | [] => []
  | call :: calls =>
    (call.due capacity flushFault before, (after capacity flushFault (before ++ [call])).device) ::
      told (before ++ [call]) calls

theorem answers_after (before calls : List WriterCall) :
    (after capacity flushFault before).answers (m := m) Memory.device calls =
      pure (told capacity flushFault before calls) := by
  induction calls generalizing before with
  | nil => rfl
  | cons call calls ih => simp [answers, answer_after, ih, told]

@[simp] theorem length_told (before calls : List WriterCall) :
    (told capacity flushFault before calls).length = calls.length := by
  induction calls generalizing before with
  | nil => rfl
  | cons call calls ih => simp [told, ih]

theorem getElem?_told (before earlier later : List WriterCall) (call : WriterCall) :
    (told capacity flushFault before (earlier ++ call :: later))[earlier.length]? =
      some (call.due capacity flushFault (before ++ earlier),
        (after capacity flushFault (before ++ earlier ++ [call])).device) := by
  induction earlier generalizing before with
  | nil => simp [told]
  | cons other earlier ih =>
      rw [List.cons_append, told, List.length_cons, List.getElem?_cons_succ, ih]
      simp

end Memory

/-- A writer over an empty memory is asked for anything. After each call the memory holds the first
bytes of the lines that were attempted by then, as many as it has room for, and at no moment of the
calls it held anything but a beginning of those. Before the first closing a frame is written if its
line still finds room behind those of all earlier frames, and otherwise it is told whether its text
found room and its line feed did not. The first closing fails if flushing does. After it the writer
stays closed, and the memory stays as it is. -/
theorem answers_by_history (capacity : Option Nat) (flushFault : Option SystemError)
    (before : List WriterCall) (call : WriterCall) (later : List WriterCall) :
    let fresh : LineWriter Memory :=
      { device := { capacity := capacity, flushFault := flushFault } }
    let answers := Id.run (fresh.answers Memory.device (before ++ call :: later))
    let freshWatched : LineWriter Watched := { device := .new fresh.device }
    let watchedAnswers := Id.run (freshWatched.answers Watched.device (before ++ call :: later))
    let used := (WriterCall.lines before).length
    answers.length = (before ++ call :: later).length ∧
    ∃ outcome memory, answers[before.length]? = some (outcome, memory) ∧
      memory.bytes = clip capacity (WriterCall.lines (before ++ [call])) ∧
      (∃ watched, watchedAnswers[before.length]? = some (outcome, watched) ∧
        watched.memory = memory ∧ ∀ content ∈ watched.moments, content <+: memory.bytes) ∧
      (.close ∉ before →
        match call with
        | .write f =>
          (outcome = .ok () ↔ Admits capacity (used + f.line.length)) ∧
          (outcome = .error (.unwritable Memory.full) ↔
            Admits capacity (used + (Text.encode f.json).length) ∧
            ¬Admits capacity (used + f.line.length)) ∧
          (outcome = .error (.unstored f.index Memory.full) ↔
            ¬Admits capacity (used + (Text.encode f.json).length))
        | .close =>
          outcome = match flushFault with
            | none => .ok ()
            | some cause => .error (.unwritable cause)) ∧
      ∀ opened closed, before = opened ++ .close :: closed →
        memory.bytes = clip capacity (WriterCall.lines opened) ∧
        outcome = match call with
          | .write _ => .error .closed
          | .close => .ok () := by
  intro fresh answers freshWatched watchedAnswers used
  have all : answers = told capacity flushFault [] (before ++ call :: later) := by
    simp only [answers, fresh, ← after_nil, answers_after, Id.run_pure]
  have here : answers[before.length]? = some (call.due capacity flushFault before,
      (after capacity flushFault (before ++ [call])).device) := by
    rw [all, getElem?_told, List.nil_append]
  have same : answers = watchedAnswers.map (Prod.map id Watched.memory) :=
    Watched.device_extends.answers (m := Id) freshWatched (before ++ call :: later)
  refine ⟨by rw [all, length_told], _, _, here, rfl, ?_, fun still_open => ?_, ?_⟩
  · rw [same, List.getElem?_map, Option.map_eq_some_iff] at here
    obtain ⟨⟨outcome, watched⟩, found, eq⟩ := here
    obtain ⟨rfl, kept⟩ := Prod.mk.inj eq
    exact ⟨watched, found, kept, kept ▸ watched.grows⟩
  · cases call with
    | write f =>
        rw [WriterCall.due, if_neg still_open]
        exact f.outcome_cases capacity used
    | close =>
        rw [WriterCall.due, if_neg still_open]
        cases flushFault <;> rfl
  · rintro opened closed rfl
    have shut : .close ∈ opened ++ .close :: closed := by simp
    constructor
    · rw [after, List.append_cons opened, List.append_assoc,
        WriterCall.lines_append_of_close_mem (by simp), WriterCall.lines_append_close]
    · cases call <;> rw [WriterCall.due, if_pos shut]

end LineWriter

end FaceAnnotator
