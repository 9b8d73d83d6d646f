import FaceAnnotator.Host.World
import FaceAnnotator.Pipeline.Session
import FaceAnnotator.Proofs.Pipeline.Invariant
/-!
# FaceAnnotator.Proofs.Session.Invariant

**What a session does to the files of a world, it does through its device.**

If the operations of a device preserve what is known of its state and the files, then a run of the
session does (`upholds_device`, `Upholds.preserves`). Logging, telemetry and the clock have no
part in it.
-/

namespace FaceAnnotator

variable {δ : Type} {α : Type}

/-- The operations of a device preserve what is known of its state and of the files. Writing need do
so only if anything is ever written. -/
structure Device.Preserves (d : Device (StateM World) δ) (D : δ → FileSystem → Prop) (fed : Prop) :
    Prop where
  write : fed → ∀ state bytes,
    Leaves (fun w => D state w.files) (d.write state bytes) fun stored w => D stored.2 w.files
  flush : ∀ state,
    Leaves (fun w => D state w.files) (d.flush state) fun flushed w => D flushed.2 w.files
  release :
    ∀ state, Leaves (fun w => D state w.files) (d.release state) fun state w => D state w.files

namespace Session

variable {R : LineReader → Prop} {D : δ → FileSystem → Prop} {fed : Prop}
  {d : Device (StateM World) δ}

/-- What is known of a reader, and of a device and the files. -/
def Knows (R : LineReader → Prop) (D : δ → FileSystem → Prop) (state : δ) (s : Session δ)
    (w : World) : Prop :=
  R s.reader ∧ D state w.files

/-- A computation that leaves the files alone. -/
def KeepsFiles (x : StateM World α) : Prop := ∀ w, (x w).2.files = w.files

theorem KeepsFiles.leaves {x : StateM World α} (h : KeepsFiles x) (P : FileSystem → Prop) :
    Leaves (fun w => P w.files) x fun _ w => P w.files := by
  intro w holds
  rw [h w]
  exact holds

theorem KeepsFiles.done (a : α) : KeepsFiles (pure a) := fun _ => rfl

theorem KeepsFiles.bind {β : Type} {x : StateM World α} {f : α → StateM World β} (hx : KeepsFiles x)
    (hf : ∀ a, KeepsFiles (f a)) : KeepsFiles (x >>= f) := fun w => (hf _ _).trans (hx w)

/-- What comes after a computation leaves the files as that one left them. -/
theorem KeepsFiles.after {β : Type} {f : α → StateM World β} (hf : ∀ a, KeepsFiles (f a))
    (x : StateM World α) (w : World) : ((x >>= f) w).2.files = (x w).2.files := hf _ _

/-- A computation on the device is one in the session. -/
theorem triple_device {β : Type} {x : StateM World (β × δ)} {state : δ}
    (h : Leaves (fun w => D state w.files) x fun stored w => D stored.2 w.files) :
    Triple (Knows R D state) (lift x) fun stored => Knows R D stored.2 :=
  fun _ w holds => ⟨holds.1, h w holds.2⟩

section writer

variable (h : d.Preserves D fed)
include h

theorem triple_writeAll (given : fed) (state : δ) (chunks : List (List UInt8)) :
    Triple (Knows R D state) ((liftDevice d).writeAll state chunks) fun stored =>
      Knows R D stored.2 := by
  induction chunks generalizing state with
  | nil => exact .done fun _ _ holds => holds
  | cons chunk chunks ih =>
      refine .bind (triple_device (h.write given state chunk)) fun stored => ?_
      obtain ⟨outcome, state⟩ := stored
      cases outcome with
      | error refusal => exact .done fun _ _ holds => holds
      | ok _ => exact ih state

theorem triple_writeFrame (given : fed) (v : LineWriter δ) (f : Frame) :
    Triple (Knows R D v.device) (v.write (liftDevice d) f) fun stored =>
      Knows R D stored.2.device := by
  unfold LineWriter.write
  split
  · refine .bind (triple_writeAll h given _ _) fun stored => ?_
    obtain ⟨outcome, state⟩ := stored
    cases outcome with
    | error refusal => exact .done fun _ _ holds => holds
    | ok _ =>
        refine .bind (triple_device (h.write given state lineEnd)) fun stored => ?_
        obtain ⟨outcome, state⟩ := stored
        cases outcome <;> exact .done fun _ _ holds => holds
  · exact .done fun _ _ holds => holds

theorem triple_closeWriter (v : LineWriter δ) :
    Triple (Knows R D v.device) (v.close (liftDevice d)) fun closed =>
      Knows R D closed.2.device := by
  unfold LineWriter.close
  split
  · refine .bind (triple_device (h.flush v.device)) fun flushed => ?_
    obtain ⟨outcome, state⟩ := flushed
    have released : Triple (Knows R D state) ((liftDevice d).release state) fun state =>
        Knows R D state :=
      fun _ w holds => ⟨holds.1, h.release state w holds.2⟩
    refine .bind released fun state => ?_
    cases outcome <;> exact .done fun _ _ holds => holds
  · exact .done fun _ _ holds => holds

omit R in
/-- To let the device go, whether or not the writer was closed. -/
theorem leaves_abandon (v : LineWriter δ) :
    Leaves (fun w => D v.device w.files) (v.abandon d) fun v w => D v.device w.files := by
  unfold LineWriter.abandon
  split
  · exact .bind (h.release v.device) fun _ => .done fun _ holds => holds
  · exact .done fun _ holds => holds

end writer

/-! ### The pipeline -/

section upheld

variable {ω : Type}

/-- The operations that a session is made of preserve what is known of its reader, and what is known
of its writer and the surroundings. Writing need do so only if a frame can come so far. -/
structure Upholds (readFile : String → StateM ω (Except SystemError (List UInt8)))
    (d : Device (StateM ω) δ) (log : Record → StateM ω Unit) (now : StateM ω Nat) (path : String)
    (R : LineReader → Prop) (W : LineWriter δ → ω → Prop) (fed : Prop) : Prop where
  connect :
    ∀ r v, R r → Leaves (W v) (readFile path) fun found w => R (r.connect path found).1 ∧ W v w
  closeReader : ∀ r, R r → R r.close
  feed : ∀ r, R r → ∀ read ∈ r.items, (read ()).isOk → fed
  write :
    fed → ∀ v f, Triple (fun (s : Session δ) w => R s.reader ∧ W v w) (v.write (liftDevice d) f)
    fun stored s w => R s.reader ∧ W stored.2 w
  closeWriter : ∀ v, Triple (fun (s : Session δ) w => R s.reader ∧ W v w) (v.close (liftDevice d))
    fun closed s w => R s.reader ∧ W closed.2 w
  log : ∀ v record, Leaves (W v) (log record) fun _ => W v
  now : ∀ v, Leaves (W v) now fun _ => W v

variable {readFile : String → StateM ω (Except SystemError (List UInt8))} {d : Device (StateM ω) δ}
  {log : Record → StateM ω Unit} {now : StateM ω Nat} {started : Nat} {path : String}
  {R : LineReader → Prop}
  {W : LineWriter δ → ω → Prop} {fed : Prop}

theorem triple_logAll_of_leaves (logs : ∀ v record, Leaves (W v) (log record) fun _ => W v)
    (records : List Record) :
    Triple (fun (s : Session δ) w => R s.reader ∧ W s.writer w)
      (logAll (fun record => lift (log record)) records)
      fun _ s w => R s.reader ∧ W s.writer w := by
  induction records with
  | nil => exact .done fun _ _ holds => holds
  | cons record records ih =>
      exact .bind (fun s w holds => ⟨holds.1, logs _ record w holds.2⟩) fun _ => ih

/-- A run of a session preserves what its operations preserve. -/
theorem Upholds.preserves (h : Upholds readFile d log now path R W fed) :
    (pipeline readFile d log now started).Preserves path (fun s w => R s.reader ∧ W s.writer w)
      fed where
  connect := by
    refine .bind (Q := fun found s w => R (s.reader.connect path found).1 ∧ W s.writer w)
      (fun s w holds => h.connect _ _ holds.1 w holds.2) fun found => ?_
    refine .bind (Q := fun r s w => R (r.connect path found).1 ∧ W s.writer w)
      (fun _ _ holds => holds) fun r => ?_
    refine .bind (Q := fun _ s w => R s.reader ∧ W s.writer w) (fun _ _ holds => holds) fun _ => ?_
    exact .bind (triple_logAll_of_leaves h.log _) fun _ => .done fun _ _ holds => holds
  frames := by
    refine .bind (Q := fun r s w => (R s.reader ∧ W s.writer w) ∧ R r)
      (fun s w holds => ⟨holds, holds.1⟩) fun r => ?_
    refine .done fun s w holds => ⟨holds.1, ?_, .done fun _ _ holds => holds⟩
    intro item mem
    obtain ⟨read, within, rfl⟩ := List.mem_map.1 mem
    exact fun s w kept => ⟨kept, h.feed r holds.2 read within⟩
  closeSource := fun s w holds => ⟨h.closeReader _ holds.1, holds.2⟩
  process f := by
    refine .bind (Q := fun _ s w => R s.reader ∧ W s.writer w) (fun _ _ holds => holds) fun a => ?_
    refine .bind (Q := fun _ s w => R s.reader ∧ W s.writer w) (fun _ _ holds => holds) fun _ => ?_
    exact .bind (triple_logAll_of_leaves h.log _) fun _ => .done fun _ _ holds => holds
  labelCount := fun s w holds => holds
  write given f := by
    refine .bind (Q := fun v s w => R s.reader ∧ W v w) (fun _ _ holds => holds) fun v => ?_
    refine .bind (h.write given v f) fun stored => ?_
    exact .bind (Q := fun _ s w => R s.reader ∧ W s.writer w) (fun _ _ holds => holds) fun _ =>
      .done fun _ _ holds => holds
  closeSink := by
    refine .bind (Q := fun v s w => R s.reader ∧ W v w) (fun _ _ holds => holds) fun v => ?_
    refine .bind (h.closeWriter v) fun closed => ?_
    exact .bind (Q := fun _ s w => R s.reader ∧ W s.writer w) (fun _ _ holds => holds) fun _ =>
      .done fun _ _ holds => holds
  observe e := by
    refine .bind (Q := fun _ s w => R s.reader ∧ W s.writer w) ?_ fun passed => ?_
    · exact .bind (fun s w holds => ⟨holds.1, h.now _ w holds.2⟩)
        fun _ => .done fun _ _ holds => holds
    refine .bind (Q := fun _ s w => R s.reader ∧ W s.writer w) (fun _ _ holds => holds) fun t => ?_
    exact .bind (Q := fun _ s w => R s.reader ∧ W s.writer w) (fun _ _ holds => holds) fun _ =>
      triple_logAll_of_leaves h.log _
  now := fun s w holds => ⟨holds.1, h.now _ w holds.2⟩

end upheld

/-- What the operations of a device preserve, a session upholds with it, if nothing but the device
changes the files. What the reader finds at the path counts, too. -/
theorem upholds_device {readFile : String → StateM World (Except SystemError (List UInt8))}
    {log : Record → StateM World Unit} {now : StateM World Nat} {path : String}
    (hd : d.Preserves D fed)
    (reads : KeepsFiles (readFile path)) (quiet : ∀ record, KeepsFiles (log record))
    (ticks : KeepsFiles now)
    (connects : ∀ r state w, R r → D state w.files → R (r.connect path (readFile path w).1).1)
    (closes : ∀ r, R r → R r.close) (feeds : ∀ r, R r → ∀ read ∈ r.items, (read ()).isOk → fed) :
    Upholds readFile d log now path R (fun v w => D v.device w.files) fed where
  connect r v holds w kept := ⟨connects r v.device w holds kept, reads.leaves (D v.device) w kept⟩
  closeReader := closes
  feed := feeds
  write := triple_writeFrame hd
  closeWriter := triple_closeWriter hd
  log v record := (quiet record).leaves (D v.device)
  now v := ticks.leaves (D v.device)

end Session

end FaceAnnotator
