import FaceAnnotator.Proofs.Labeling.Survey
import FaceAnnotator.Proofs.Session.Parts
import Mathlib.Algebra.Order.Ring.Nat
/-!
# FaceAnnotator.Proofs.Session.Refinement

**What a run over a recording comes to, said with lists alone.**

Up to the first line that holds no frame, or a frame with a tensor that cannot be decoded, every
line becomes a labeled one, and these are stored one behind the other as far as there is room. Three
things may then spoil the run, and the first of them counts: a labeled line finds no room, a line is
of no use, the memory cannot be flushed (`runOutcome`). `run_refines` says that a run of a session
does just that, with whatever log, clock and telemetry.

The run meets these causes in another order than they are listed here: it stores a line before it
looks at the next. That they come out the same is shown by induction on the lines, for a memory that
holds everything that was to be stored so far.
-/

namespace FaceAnnotator

/-! ### The lines of a recording -/

/-- The lines of a text that are not blank, each with its number; the numbers count from one. -/
def heldLines (content : List Char) : List (Nat × List Char) :=
  ((Text.lines content).zipIdx 1).filterMap fun (line, number) =>
    if line.all Text.isBlank then none else some (number, line)

/-- The frame on a line, if it can be labeled; otherwise what ends a run there. -/
def workable (line : Nat × List Char) : Except (RunFault RecordingFault Undecodable) Frame :=
  match Frame.ofJson line.2 with
  | .error cause => .error (.transfer (.badLine line.1 cause))
  | .ok f =>
    match f.undecodable? with
    | some cause => .error (.processing f.index cause)
    | none => .ok f

/-- The frames before the first line that is of no use. -/
def workableFrames (lines : List (Nat × List Char)) : List Frame :=
  ((lines.map workable).takeWhile Except.isOk).filterMap Except.toOption

/-- What ends a run at the first line that is of no use, if there is one. -/
def firstFault? (lines : List (Nat × List Char)) : Option (RunFault RecordingFault Undecodable) :=
  lines.findSome? fun line =>
    match workable line with
    | .error fault => some fault
    | .ok _ => none

/-- The labeled lines of some frames, one behind the other. -/
def labeledBytes (frames : List Frame) : List UInt8 := frames.flatMap fun f => f.annotate.frame.line

/-- Why the first of the labeled lines that finds no room behind so many bytes does not find it. -/
def firstMisfit? (capacity : Option Nat) : Nat → List Frame → Option RecordingFault
  | _, [] => none
  | used, f :: frames =>
    (f.annotate.frame.misfit capacity used).or
      (firstMisfit? capacity (used + f.annotate.frame.line.length) frames)

/-- The counts of a run that began with some counts and got some frames to its end. -/
def countedFrom (stats : RunStats) (frames : List Frame) : RunStats where
  frames := stats.frames + frames.length
  regions := stats.regions + (frames.map (·.regions.length)).sum
  labels := stats.labels + (frames.map (·.tensors.countP (·.Labelable))).sum
  stoppedEarly := stats.stoppedEarly

/-- What the rounds over some lines come to, behind so many bytes and with some counts. -/
def roundsOutcome (capacity : Option Nat) (used : Nat) (stats : RunStats)
    (lines : List (Nat × List Char)) : Except (RunFault RecordingFault Undecodable) RunStats :=
  match firstMisfit? capacity used (workableFrames lines), firstFault? lines with
  | some fault, _ => .error (.transfer fault)
  | none, some fault => .error fault
  | none, none => .ok (countedFrom stats (workableFrames lines))

/-- What a run over a text comes to, given the capacity of the memory and why flushing it fails. -/
def runOutcome (capacity : Option Nat) (flushFault : Option SystemError) (content : List Char) :
    Except (RunFault RecordingFault Undecodable) RunStats :=
  match roundsOutcome capacity 0 {} (heldLines content), flushFault with
  | .error fault, _ => .error fault
  | .ok _, some cause => .error (.transfer (.unwritable cause))
  | .ok stats, none => .ok stats

/-! ### One line more -/

section cons

variable {line : Nat × List Char} {f : Frame} {fault : RunFault RecordingFault Undecodable}

theorem workableFrames_cons_of_ok (h : workable line = .ok f) (lines : List (Nat × List Char)) :
    workableFrames (line :: lines) = f :: workableFrames lines := by
  rw [workableFrames, List.map_cons, h, List.takeWhile_cons_of_pos rfl, List.filterMap_cons]
  rfl

theorem workableFrames_cons_of_error (h : workable line = .error fault)
    (lines : List (Nat × List Char)) : workableFrames (line :: lines) = [] := by
  simp [workableFrames, h, Except.isOk, Except.toBool]

theorem firstFault?_cons_of_ok (h : workable line = .ok f) (lines : List (Nat × List Char)) :
    firstFault? (line :: lines) = firstFault? lines := by
  simp [firstFault?, h]

theorem firstFault?_cons_of_error (h : workable line = .error fault)
    (lines : List (Nat × List Char)) : firstFault? (line :: lines) = some fault := by
  simp [firstFault?, h]

/-- The counts of one frame and then of others. -/
theorem countedFrom_countedFrom (stats : RunStats) (f : Frame) (frames : List Frame) :
    countedFrom (countedFrom stats [f]) frames = countedFrom stats (f :: frames) := by
  simp [countedFrom, Nat.add_assoc, Nat.add_comm, Nat.add_left_comm]

/-- A line with a frame that can be labeled either finds no room, or is counted before the
others. -/
theorem roundsOutcome_cons_of_ok (h : workable line = .ok f) (capacity : Option Nat) (used : Nat)
    (stats : RunStats) (lines : List (Nat × List Char)) :
    roundsOutcome capacity used stats (line :: lines) =
      match f.annotate.frame.misfit capacity used with
      | some fault => .error (.transfer fault)
      | none => roundsOutcome capacity (used + f.annotate.frame.line.length) (countedFrom stats [f])
          lines := by
  rw [roundsOutcome, workableFrames_cons_of_ok h, firstFault?_cons_of_ok h, firstMisfit?]
  cases f.annotate.frame.misfit capacity used with
  | some fault => rfl
  | none => rw [Option.none_or, roundsOutcome, countedFrom_countedFrom]

end cons

/-- Every line gives a frame exactly if none is of no use. -/
theorem length_workableFrames_eq_iff (lines : List (Nat × List Char)) :
    (workableFrames lines).length = lines.length ↔ firstFault? lines = none := by
  induction lines with
  | nil => exact iff_of_true rfl rfl
  | cons line lines ih =>
      cases h : workable line with
      | error fault => simp [workableFrames_cons_of_error h, firstFault?_cons_of_error h]
      | ok f =>
          rw [workableFrames_cons_of_ok h, firstFault?_cons_of_ok h, ← ih]
          simp

/-- The lines that a reader takes are those that are not blank. -/
theorem frameLines_eq_heldLines (content : List Char) : frameLines content = heldLines content := by
  unfold frameLines heldLines
  -- The numbers count from any number on, or else the induction does not go through.
  generalize 1 = number
  generalize Text.lines content = lines
  induction lines generalizing number with
  | nil => rfl
  | cons line lines ih =>
      simp only [numberedFrom, List.zipIdx_cons, List.filter_cons, List.filterMap_cons, ih]
      cases line.all Text.isBlank <;> rfl

/-- There is a misfit exactly if not all lines find room. -/
theorem firstMisfit?_eq_none_iff (capacity : Option Nat) {used : Nat} (frames : List Frame)
    (before : Admits capacity used) :
    firstMisfit? capacity used frames = none ↔
      Admits capacity (used + (labeledBytes frames).length) := by
  induction frames generalizing used with
  | nil => simpa [firstMisfit?, labeledBytes] using before
  | cons f frames ih =>
      have size : used + (labeledBytes (f :: frames)).length =
          used + f.annotate.frame.line.length + (labeledBytes frames).length := by
        simp only [labeledBytes, List.flatMap_cons, List.length_append]
        omega
      rw [firstMisfit?, size, Option.or_eq_none_iff]
      constructor
      · rintro ⟨first, rest⟩
        exact (ih (Frame.admits_of_misfit_eq_none first)).1 rest
      · intro all
        have first : f.annotate.frame.misfit capacity used = none := by
          rw [Frame.misfit, if_pos (all.mono (Nat.le_add_right _ _))]
        exact ⟨first, (ih (Frame.admits_of_misfit_eq_none first)).2 all⟩

/-! ### One round -/

namespace Session

variable {ω δ : Type} {r : LineReader} {a : Annotator} {memory : Memory} {v v' : LineWriter δ}
  {d : Device (StateM ω) δ} {readFile : String → StateM ω (Except SystemError (List UInt8))}
  {log : Record → StateM ω Unit} {now : StateM ω Nat} {started : Nat}

/-- What an annotator does to a frame that can be labeled. -/
theorem process_of_decodable {f : Frame} (h : f.undecodable? = none) (a : Annotator) :
    a.process f = (⟨f.tensors.countP (·.Labelable)⟩, ⟨f.annotate.frame, .ok true⟩) := by
  have count := Frame.length_regionAssignments 0 h
  simp [Annotator.process, Frame.annotate, f.outcome_survey, h, Frame.surveyed, count,
    Frame.tensors]

/-- What an annotator does to a frame that cannot. -/
theorem process_of_undecodable {f : Frame} {cause : Undecodable} (h : f.undecodable? = some cause)
    (a : Annotator) : a.process f = (⟨0⟩, ⟨f, .error cause⟩) := by
  simp [Annotator.process, f.outcome_survey, h, Frame.surveyed]

@[simp] theorem length_regions_annotate (f : Frame) :
    f.annotate.frame.regions.length = f.regions.length := by
  unfold Frame.annotate
  split <;> simp

/-- A line that is of no use ends the run, and nothing is stored. -/
theorem triple_round_of_error {number : Nat} {line : List Char} {total : Nat} {stats : RunStats}
    {fault : RunFault RecordingFault Undecodable} (h : workable (number, line) = .error fault) :
    Triple (Holds r a v)
      ((pipeline readFile d log now started).round total stats
        ((fun _ => LineReader.readLine number line) <$> pure ()))
      fun outcome s w => outcome = .error fault ∧ ∃ a, Holds r a v s w := by
  unfold workable at h
  refine Triple.bind (triple_lift now) fun start => ?_
  refine Triple.bind_of_eq (a := LineReader.readLine number line)
    (Q := fun _ => Holds r a v) (fun s w holds => ⟨rfl, holds⟩) ?_
  unfold LineReader.readLine
  cases parsed : Frame.ofJson line with
  | error cause =>
      rw [parsed] at h
      cases h
      exact Triple.done fun s w holds => ⟨rfl, a, holds⟩
  | ok f =>
      rw [parsed] at h
      refine Triple.bind (triple_stageDone _ _) fun _ =>
        Triple.bind (triple_lift now) fun start => ?_
      refine Triple.bind_of_eq (triple_process f) ?_
      cases bad : f.undecodable? with
      | none => simp [bad] at h
      | some cause =>
          simp only [bad] at h
          cases h
          rw [process_of_undecodable bad]
          exact Triple.done fun s w holds => ⟨rfl, _, holds⟩

/-- A line with a frame that can be labeled is counted if the labeled frame can be written. -/
theorem triple_round_of_written {number : Nat} {line : List Char} {total : Nat} {stats : RunStats}
    {f : Frame} {written : Except RecordingFault Unit} (h : workable (number, line) = .ok f)
    (writes : ∀ a, Triple (Holds r a v)
      ((pipeline readFile d log now started).sink.write f.annotate.frame)
      fun outcome s w => outcome = written ∧ Holds r a v' s w) :
    Triple (Holds r a v)
      ((pipeline readFile d log now started).round total stats
        ((fun _ => LineReader.readLine number line) <$> pure ()))
      fun outcome s w =>
        outcome = (match written with
          | .error fault => .error (.transfer fault)
          | .ok _ => .ok (countedFrom stats [f])) ∧
        ∃ a, Holds r a v' s w := by
  unfold workable at h
  refine Triple.bind (triple_lift now) fun start => ?_
  refine Triple.bind_of_eq (a := LineReader.readLine number line)
    (Q := fun _ => Holds r a v) (fun s w holds => ⟨rfl, holds⟩) ?_
  unfold LineReader.readLine
  cases parsed : Frame.ofJson line with
  | error cause => simp [parsed] at h
  | ok g =>
      rw [parsed] at h
      cases bad : g.undecodable? with
      | some cause => simp [bad] at h
      | none =>
          simp only [bad, Except.ok.injEq] at h
          subst h
          refine Triple.bind (triple_stageDone _ _) fun _ => ?_
          refine Triple.bind (triple_lift now) fun start => ?_
          refine Triple.bind_of_eq (triple_process g) ?_
          rw [process_of_decodable bad]
          refine Triple.bind (triple_stageDone _ _) fun _ => ?_
          refine Triple.bind (triple_lift now) fun start => ?_
          refine Triple.bind_of_eq (writes _) ?_
          cases written with
          | error fault => exact Triple.done fun s w holds => ⟨rfl, _, holds⟩
          | ok _ =>
              refine Triple.bind (triple_stageDone _ _) fun _ => ?_
              refine Triple.bind_of_eq triple_labelCount ?_
              refine Triple.bind (triple_frameDone _ _ _ _) fun _ => ?_
              refine Triple.done fun s w holds => ⟨?_, _, holds⟩
              simp [countedFrom, RunStats.add]

/-- A line with a frame that can be labeled is stored as far as there is room. -/
theorem triple_round_of_ok {number : Nat} {line : List Char} {total : Nat} {stats : RunStats}
    {f : Frame} (h : workable (number, line) = .ok f)
    (before : Admits memory.capacity memory.bytes.length) :
    Triple (Holds r a ⟨true, memory⟩)
      ((pipeline readFile Memory.device log now started).round total stats
        ((fun _ => LineReader.readLine number line) <$> pure ()))
      fun outcome s w =>
        outcome = (match f.annotate.frame.misfit memory.capacity memory.bytes.length with
          | some fault => .error (.transfer fault)
          | none => .ok (countedFrom stats [f])) ∧
        ∃ a, Holds r a
          ⟨true, memory.keep (clip memory.capacity (memory.bytes ++ f.annotate.frame.line))⟩
          s w := by
  have writes (a : Annotator) : Triple (Holds r a ⟨true, memory⟩)
      ((pipeline readFile Memory.device log now started).sink.write f.annotate.frame) _ :=
    triple_write before f.annotate.frame
  cases misfit : f.annotate.frame.misfit memory.capacity memory.bytes.length <;>
    exact triple_round_of_written h (by simpa only [misfit] using writes)

/-! ### All rounds -/

/-- The items of a reader, as a pipeline asks for them. -/
def lineItems (lines : List (Nat × List Char)) :
    List (StateT (Session Memory) (StateM ω) (Except RecordingFault Frame)) :=
  lines.map fun (number, line) => (fun _ => LineReader.readLine number line) <$> pure ()

/-- The rounds store the labeled lines as far as there is room. The memory holds all that was to be
stored before. -/
theorem triple_rounds (total : Nat) (lines : List (Nat × List Char)) (stats : RunStats)
    (fresh : stats.stoppedEarly = false) (before : Admits memory.capacity memory.bytes.length) :
    Triple (Holds r a ⟨true, memory⟩)
      ((pipeline readFile Memory.device log now started).rounds total (pure ()) stats
        (lineItems lines)) fun outcome s w =>
        outcome = roundsOutcome memory.capacity memory.bytes.length stats lines ∧
        ∃ a, Holds r a
          ⟨true, memory.keep
            (clip memory.capacity (memory.bytes ++ labeledBytes (workableFrames lines)))⟩ s w := by
  -- The memory and the counts change from round to round, and so does the annotator.
  induction lines generalizing stats memory a with
  | nil =>
      refine Triple.done fun s w holds => ⟨?_, a, ?_⟩
      · simp [roundsOutcome, workableFrames, firstMisfit?, firstFault?, countedFrom]
      · simpa [workableFrames, labeledBytes, clip_of_admits before] using holds
  | cons line lines ih =>
      obtain ⟨number, text⟩ := line
      cases h : workable (number, text) with
      | error fault =>
          refine Triple.bind_of_eq (triple_round_of_error h) ?_
          refine Triple.done fun s w holds => ⟨?_, ?_⟩
          · simp [roundsOutcome, workableFrames_cons_of_error h, firstFault?_cons_of_error h,
              firstMisfit?]
          · simpa [workableFrames_cons_of_error h, labeledBytes, clip_of_admits before] using holds
      | ok f =>
          refine Triple.bind_of_eq (triple_round_of_ok h before) ?_
          have stored : memory.bytes ++ labeledBytes (f :: workableFrames lines) =
              memory.bytes ++ f.annotate.frame.line ++ labeledBytes (workableFrames lines) := by
            simp [labeledBytes]
          cases fits : f.annotate.frame.misfit memory.capacity memory.bytes.length with
          | some fault =>
              -- What was kept of this line hides all lines behind it.
              have full := Frame.not_admits_of_misfit_eq_some fits
              rw [← List.length_append] at full
              refine Triple.done fun s w holds => ⟨?_, ?_⟩
              · rw [roundsOutcome_cons_of_ok h, fits]
              · rw [workableFrames_cons_of_ok h, stored, clip_append_of_not_admits full]
                exact holds
          | none =>
              -- The line is stored whole, so the memory still holds all that was to be stored.
              have room := Frame.admits_of_misfit_eq_none fits
              rw [← List.length_append] at room
              rw [clip_of_admits room]
              simp only [show (countedFrom stats [f]).stoppedEarly = false from fresh,
                Bool.false_eq_true, if_false]
              refine Triple.of_exists fun a => ?_
              have later := @ih a (memory.keep (memory.bytes ++ f.annotate.frame.line))
                (countedFrom stats [f]) fresh room
              rw [roundsOutcome_cons_of_ok h, fits, workableFrames_cons_of_ok h, stored]
              simp only [Memory.capacity_keep, Memory.bytes_keep, Memory.keep_keep,
                List.length_append] at later
              exact later

/-! ### The whole run -/

/-- The frames of an open recording are its lines, each to be read in its turn. -/
theorem triple_frames (lines : List (Nat × List Char)) (v : LineWriter δ) :
    Triple (Holds ⟨some lines⟩ a v) (pipeline readFile d log now started).source.frames
      fun feed s w =>
        feed = ⟨lines.map fun (number, line) =>
          (fun _ => LineReader.readLine number line) <$> pure (), pure ()⟩ ∧
          Holds ⟨some lines⟩ a v s w := by
  refine Triple.bind_of_eq (a := ⟨some lines⟩) (Q := fun _ => Holds ⟨some lines⟩ a v)
    (fun s w holds => ⟨holds.1, holds⟩) ?_
  refine Triple.done fun s w holds => ⟨?_, holds⟩
  simp only [LineReader.items, List.map_map]
  rfl

/-- What closing can still spoil is a run without a fault. -/
theorem verdict_closing (capacity : Option Nat) (flushFault : Option SystemError)
    (content : List Char) (bytes : List UInt8) :
    Pipeline.verdict (roundsOutcome capacity 0 {} (heldLines content))
        (Memory.closing ⟨bytes, capacity, flushFault⟩) =
      runOutcome capacity flushFault content := by
  unfold runOutcome Memory.closing
  cases roundsOutcome capacity 0 {} (heldLines content) <;> cases flushFault <;> rfl

/-- What a run comes to, and what it leaves in the memory. -/
theorem triple_run (path : String) (content : List Char) (capacity : Option Nat)
    (flushFault : Option SystemError) :
    Triple (Holds r a ⟨true, ⟨[], capacity, flushFault⟩⟩)
      ((pipeline (fun _ => pure (.ok (Text.encode content))) Memory.device log now started).run
        path)
      fun outcome s _ => outcome = runOutcome capacity flushFault content ∧
        s.writer.device.bytes =
          clip capacity (labeledBytes (workableFrames (heldLines content))) := by
  have empty : Admits capacity 0 := fun _ _ => Nat.zero_le _
  refine Triple.bind_of_eq (triple_connect fun _ => rfl) ?_
  simp only [LineReader.connect, LineReader.textOf, Text.decode_encode, frameLines_eq_heldLines]
  refine Triple.bind (triple_observe _) fun _ => ?_
  refine Triple.bind_of_eq (triple_frames _ _) ?_
  refine Triple.bind_of_eq (triple_rounds _ _ {} rfl empty) ?_
  refine Triple.of_exists fun a => Triple.bind triple_closeSource fun _ => ?_
  refine Triple.bind_of_eq triple_closeSink ?_
  simp only [Memory.keep, List.nil_append, List.length_nil, verdict_closing]
  generalize workableFrames (heldLines content) = frames
  have stored : ∀ (s : Session Memory) (w : ω),
      Holds (LineReader.close ⟨some (heldLines content)⟩) a
      ⟨false, ⟨clip capacity (labeledBytes frames), capacity, flushFault⟩⟩ s w →
      s.writer.device.bytes = clip capacity (labeledBytes frames) :=
    fun s w holds => by rw [holds.2.2]
  cases runOutcome capacity flushFault content with
  | error fault => exact Triple.done fun s w holds => ⟨rfl, stored s w holds⟩
  | ok stats =>
      refine Triple.bind (triple_observe _) fun _ => ?_
      exact Triple.done fun s w holds => ⟨rfl, stored s w holds⟩

/-- A run over a file with the given text, begun with an open writer over an empty memory, comes to
what `runOutcome` says. It leaves in the memory the labeled lines of the frames that can be labeled,
up to the first line that is of no use, or as many of their first bytes as there is room for. One of
these lines finds no room exactly if there is too little for all, and all lines are labeled exactly
if none is of no use. -/
theorem run_refines (log : Record → StateM ω Unit) (now : StateM ω Nat) (started : Nat)
    (path : String) (content : List Char) (capacity : Option Nat) (flushFault : Option SystemError)
    (r : LineReader) (a : Annotator) (t : Telemetry) (w : ω) :
    let p := pipeline (fun _ => pure (.ok (Text.encode content))) Memory.device log now started
    let ran := (p.run path ⟨r, a, ⟨true, ⟨[], capacity, flushFault⟩⟩, t⟩ w).1
    let frames := workableFrames (heldLines content)
    ran.1 = runOutcome capacity flushFault content ∧
      ran.2.writer.device.bytes = clip capacity (labeledBytes frames) ∧
      (firstMisfit? capacity 0 frames = none ↔ Admits capacity (labeledBytes frames).length) ∧
      (frames.length = (heldLines content).length ↔ firstFault? (heldLines content) = none) := by
  intro p ran frames
  have empty : Admits capacity 0 := fun _ _ => Nat.zero_le _
  have room := firstMisfit?_eq_none_iff capacity frames empty
  rw [Nat.zero_add] at room
  obtain ⟨outcome, stored⟩ := triple_run path content capacity flushFault
    ⟨r, a, ⟨true, ⟨[], capacity, flushFault⟩⟩, t⟩ w ⟨rfl, rfl, rfl⟩
  exact ⟨outcome, stored, room, length_workableFrames_eq_iff _⟩

end Session

end FaceAnnotator
