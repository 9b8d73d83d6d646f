import FaceAnnotator.Pipeline.Session
import FaceAnnotator.Proofs.Recording.Memory
import FaceAnnotator.Proofs.Triple
/-!
# FaceAnnotator.Proofs.Session.Parts

**What each part of a session does to the states of the others: nothing.**

`Session.Holds r a v` says that reader, annotator and writer are in the states `r`, `a` and `v`;
the telemetry may be in any. There is one triple for each operation of `Session.pipeline`.
Looking at the clock, logging and telling the observer keep all three states, whatever the
surroundings do meanwhile.
-/

namespace FaceAnnotator.Session

variable {ω δ : Type}

/-- Reader, annotator and writer are in the given states. -/
def Holds (r : LineReader) (a : Annotator) (v : LineWriter δ) (s : Session δ) (_ : ω) : Prop :=
  s.reader = r ∧ s.annotator = a ∧ s.writer = v

variable {r : LineReader} {a : Annotator} {v : LineWriter δ}
  {readFile : String → StateM ω (Except SystemError (List UInt8))} {d : Device (StateM ω) δ}
  {log : Record → StateM ω Unit} {now : StateM ω Nat} {started : Nat}

/-- What is done to the surroundings alone keeps the session. -/
theorem triple_lift {α : Type} (x : StateM ω α) :
    Triple (Holds r a v) (lift x) fun _ => Holds r a v := fun _ _ h => h

theorem triple_logAll (records : List Record) :
    Triple (Holds r a v) (logAll (fun record => lift (log record)) records) fun _ =>
      Holds r a v := by
  induction records with
  | nil => exact Triple.done fun _ _ h => h
  | cons record records ih => exact Triple.bind (triple_lift (log record)) fun _ => ih

/-- To tell the observer something keeps the session but for its telemetry. -/
theorem triple_observe (e : Event) :
    Triple (Holds r a v) ((pipeline readFile d log now started).observe e) fun _ =>
      Holds r a v := by
  refine Triple.bind (Q := fun _ => Holds r a v) ?_ fun passed => ?_
  · exact Triple.bind (triple_lift now) fun _ => Triple.done fun _ _ h => h
  refine Triple.bind (Q := fun _ => Holds r a v) (fun _ _ h => h) fun t => ?_
  exact Triple.bind (Q := fun _ => Holds r a v) (fun _ _ h => h) fun _ => triple_logAll _

theorem triple_stageDone (stage : String) (start : Nat) :
    Triple (Holds r a v) ((pipeline readFile d log now started).stageDone stage start)
      fun _ => Holds r a v :=
  Triple.bind (triple_lift now) fun _ => triple_observe _

theorem triple_frameDone (total : Nat) (stats : RunStats) (f : Frame) (labels : Nat) :
    Triple (Holds r a v) ((pipeline readFile d log now started).frameDone total stats f labels)
      fun _ => Holds r a v :=
  Triple.bind (triple_observe _) fun _ => Triple.bind (triple_observe _) fun _ => triple_observe _

/-- To connect is to take the lines of the file. -/
theorem triple_connect {path : String} {found : Except SystemError (List UInt8)}
    (hfile : ∀ w, (readFile path w).1 = found) :
    Triple (Holds r a v) ((pipeline readFile d log now started).source.connect path)
        fun outcome s w => outcome = (r.connect path found).2.1.map Overview.frames ∧
        Holds (r.connect path found).1 a v s w := by
  refine Triple.bind_of_eq (a := found) (Q := fun _ => Holds r a v) ?_ ?_
  · exact fun s w h => ⟨hfile w, h⟩
  refine Triple.bind_of_eq (a := r) (Q := fun _ => Holds r a v) (fun s w h => ⟨h.1, h⟩) ?_
  refine Triple.bind (Q := fun _ => Holds (r.connect path found).1 a v)
    (fun s w h => ⟨rfl, h.2⟩) fun _ => ?_
  exact Triple.bind (triple_logAll _) fun _ => Triple.done fun _ _ h => ⟨rfl, h⟩

/-- To process a frame is the annotator's work. -/
theorem triple_process (f : Frame) :
    Triple (Holds r a v) ((pipeline readFile d log now started).processor.process f)
      fun processed s w => processed = (a.process f).2 ∧ Holds r (a.process f).1 v s w := by
  refine Triple.bind_of_eq (a := a) (Q := fun _ => Holds r a v) (fun s w h => ⟨h.2.1, h⟩) ?_
  refine Triple.bind (Q := fun _ => Holds r (a.process f).1 v)
    (fun s w h => ⟨h.1, rfl, h.2.2⟩) fun _ => ?_
  exact Triple.bind (triple_logAll _) fun _ => Triple.done fun _ _ h => ⟨rfl, h⟩

theorem triple_labelCount :
    Triple (Holds r a v) (pipeline readFile d log now started).processor.labelCount
      fun labels s w => labels = a.labelCount ∧ Holds r a v s w := by
  refine Triple.bind_of_eq (a := a) (Q := fun _ => Holds r a v) (fun s w h => ⟨h.2.1, h⟩) ?_
  exact Triple.done fun _ _ h => ⟨rfl, h⟩

theorem triple_closeSource :
    Triple (Holds r a v) (pipeline readFile d log now started).source.close
      fun _ => Holds r.close a v := by
  refine Triple.bind_of_eq (a := r) (Q := fun _ => Holds r a v) (fun s w h => ⟨h.1, h⟩) ?_
  exact fun s w h => ⟨rfl, h.2⟩

/-! ### Writing into a memory -/

/-- Memory needs nothing of the surroundings, so it is the same device in a session. -/
theorem liftDevice_memory :
    liftDevice (Memory.device (m := StateM ω)) = Memory.device := rfl

variable {memory : Memory}

/-- To write a frame is to keep of its line what there is room for. -/
theorem triple_write (before : Admits memory.capacity memory.bytes.length) (f : Frame) :
    Triple (Holds r a ⟨true, memory⟩)
      ((pipeline readFile Memory.device log now started).sink.write f) fun outcome s w =>
        outcome = outcomeOf (f.misfit memory.capacity memory.bytes.length) ∧
          Holds r a ⟨true, memory.keep (clip memory.capacity (memory.bytes ++ f.line))⟩ s w := by
  refine Triple.bind_of_eq (a := ⟨true, memory⟩) (Q := fun _ => Holds r a ⟨true, memory⟩)
    (fun s w h => ⟨h.2.2, h⟩) ?_
  rw [liftDevice_memory, LineWriter.write_memory before, pure_bind]
  exact Triple.bind (Q := fun _ => Holds r a _) (fun s w h => ⟨h.1, h.2.1, rfl⟩)
    fun _ => Triple.done fun _ _ h => ⟨rfl, h⟩

/-- To close the sink is to flush the memory. -/
theorem triple_closeSink :
    Triple (Holds r a ⟨true, memory⟩) (pipeline readFile Memory.device log now started).sink.close
      fun outcome s w => outcome = memory.closing ∧ Holds r a ⟨false, memory⟩ s w := by
  refine Triple.bind_of_eq (a := ⟨true, memory⟩) (Q := fun _ => Holds r a ⟨true, memory⟩)
    (fun s w h => ⟨h.2.2, h⟩) ?_
  rw [liftDevice_memory, LineWriter.close_memory, pure_bind]
  exact Triple.bind (Q := fun _ => Holds r a _) (fun s w h => ⟨h.1, h.2.1, rfl⟩)
    fun _ => Triple.done fun _ _ h => ⟨rfl, h⟩

end FaceAnnotator.Session
