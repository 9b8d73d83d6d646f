import FaceAnnotator.Proofs.Labeling.Pointwise
import FaceAnnotator.Proofs.Numeric.DoubleRounding
import FaceAnnotator.Proofs.Pipeline.Handover
import FaceAnnotator.Proofs.Session.Refinement
/-!
# FaceAnnotator.Proofs.Session.Progress

**The progress of a run, as its log tells it.**

A run logs several kinds of records, and those of progress can be told from the others by what they
say (`Record.TellsProgress`). Nothing but telling the observer how many frames are done adds one. So
the rounds add one for each of their numbers that is due, and at the end of a good run the log tells
of every so many frames and of the last one (`run_tells_progress`).
-/

namespace FaceAnnotator

open Numeric
open Telemetry (percentage)

/-- A record of progress, by its level, its area, and how its text begins. -/
def Record.TellsProgress (r : Record) : Prop :=
  r.level = .info ∧ r.area = .pipeline ∧ "Labeled ".toList <+: r.text.toList

instance : DecidablePred Record.TellsProgress := fun _ => inferInstanceAs (Decidable (_ ∧ _ ∧ _))

/-- The record of so many frames out of all of them. -/
def Record.labeled (current total : Nat) : Record :=
  .info .pipeline
    s!"Labeled {current}/{total} frames ({String.ofList ((percentage current total).fixed 1)}%)"

/-! ### What is logged, and what of it is progress -/

namespace Record

theorem tellsProgress_labeled (current total : Nat) : (labeled current total).TellsProgress := by
  refine ⟨rfl, rfl, ?_⟩
  have begins : (toString "Labeled ").toList = ['L', 'a', 'b', 'e', 'l', 'e', 'd', ' '] := by decide
  simp only [labeled, info, String.toList_append, List.append_assoc, begins]
  exact List.prefix_append _ _

theorem not_tellsProgress_opening (total : Nat) (path : String) :
    ¬ (info .pipeline s!"Labeling {total} frames from {path}").TellsProgress := by
  rintro ⟨-, -, begins⟩
  have other : (toString "Labeling ").toList = ['L', 'a', 'b', 'e', 'l', 'i', 'n', 'g', ' '] := by
    decide
  simp [info, String.toList_append, other] at begins

theorem not_tellsProgress_summary (text : String) :
    ¬ (info .pipeline ("\n\n" ++ text)).TellsProgress := by
  rintro ⟨-, -, begins⟩
  simp [info, String.toList_append] at begins

end Record

namespace Telemetry

/-- The record of a step, if it is worth one. -/
def due (every total current : Nat) : List Record :=
  if every ∣ current ∨ current = total then [.labeled current total] else []

variable {t : Telemetry} {elapsed : Double}

theorem every_observe (t : Telemetry) (elapsed : Double) (e : Event) :
    (t.observe elapsed e).1.every = t.every := by
  cases e <;> rfl

theorem progress_observe {total : Nat} (some : 0 < total) (current : Nat) :
    (t.observe elapsed (.progress current total)).2.filter (fun r => r.TellsProgress) =
      due t.every total current := by
  simp only [observe, progressRecord, due, if_pos some, Nat.dvd_iff_mod_eq_zero, Bool.or_eq_true,
    decide_eq_true_eq]
  split
  · exact List.filter_cons_of_pos (decide_eq_true (Record.tellsProgress_labeled current total))
  · rfl

theorem progress_observe_finished :
    (t.observe elapsed .finished).2.filter (fun r => r.TellsProgress) = [] := by
  simp only [observe, summaryRecord]
  split
  · cases t.summary elapsed with
    | none => rfl
    | some text =>
        exact List.filter_cons_of_neg (by simpa using Record.not_tellsProgress_summary text)
  · rfl

end Telemetry

/-- What is logged about a frame is for whoever looks for a cause. -/
theorem Frame.progress_survey (f : Frame) :
    f.survey.records.filter (fun r => r.TellsProgress) = [] := by
  rw [survey, records_surveyRegions, unknownRecords, List.filter_eq_nil_iff]
  intro r mem
  obtain ⟨t, -, rfl⟩ := List.mem_map.1 mem
  simp [Record.TellsProgress, unknownLayer, Record.debug]

namespace Session

/-! ### Each operation of a run -/

section Operations

variable {β α : Type}

/-- The log keeps a record. -/
def keepRecord (r : Record) : StateM (β × List Record) Unit := fun w => ((), (w.1, w.2 ++ [r]))

/-- An operation that has nothing to do with the log. -/
def aside (x : StateM β α) : StateM (β × List Record) α := within Prod.fst (fun b w => (b, w.2)) x

/-- The pipeline over a session, with a log that keeps all records, and with any sink and any
clock beside it. -/
def loggedPipeline (content : List Char) (sink : Sink (StateM β) RecordingFault)
    (now : StateM β Nat) (started : Nat) :
    Pipeline (StateT (Session Memory) (StateM (β × List Record))) RecordingFault Undecodable :=
  { pipeline (fun _ => pure (.ok (Text.encode content))) Memory.device keepRecord (aside now)
      started with
    sink := ⟨fun f => lift (aside (sink.write f)), lift (aside sink.close)⟩ }

/-- The throttle of the telemetry, and the progress that the log tells. -/
def Tells (every : Nat) (progress : List Record) (s : Session Memory) (w : β × List Record) :
    Prop :=
  s.telemetry.every = every ∧ w.2.filter (fun r => r.TellsProgress) = progress

variable {content : List Char} {sink : Sink (StateM β) RecordingFault} {now : StateM β Nat}
  {started every : Nat}
  {progress : List Record}

theorem tells_aside (x : StateM β α) :
    Triple (Tells every progress) (lift (aside x)) fun _ => Tells every progress :=
  fun _ _ h => h

theorem tells_logAll (records : List Record) :
    Triple (Tells (β := β) every progress) (logAll (fun r => lift (keepRecord r)) records)
      fun _ => Tells every (progress ++ records.filter fun r => r.TellsProgress) := by
  induction records generalizing progress with
  | nil => exact Triple.done fun s w h => by rwa [List.filter_nil, List.append_nil]
  | cons r records ih =>
      refine Triple.bind (Q := fun _ =>
        Tells every (progress ++ [r].filter fun r => r.TellsProgress)) ?_ fun _ => ?_
      · rintro s w ⟨same, eq⟩
        exact ⟨same, by rw [← eq]; exact List.filter_append ..⟩
      · have split : progress ++ (r :: records).filter (fun r => r.TellsProgress) =
            progress ++ [r].filter (fun r => r.TellsProgress) ++
              records.filter fun r => r.TellsProgress := by
          rw [List.append_assoc, ← List.filter_append, List.singleton_append]
        rw [split]
        exact ih

theorem tells_observe {e : Event} {told : List Record}
    (logs : ∀ (t : Telemetry) (elapsed : Double), t.every = every →
      (t.observe elapsed e).2.filter (fun r => r.TellsProgress) = told) :
    Triple (Tells every progress) ((loggedPipeline content sink now started).observe e)
      fun _ => Tells every (progress ++ told) := by
  refine Triple.bind (Q := fun _ => Tells every progress) ?_ fun passed => ?_
  · exact Triple.bind (tells_aside now) fun _ => Triple.done fun _ _ h => h
  refine Triple.bind (Q := fun t s w => Tells every progress s w ∧ t.every = every)
    (fun s w h => ⟨h, h.1⟩) fun t => Triple.of_and fun same => ?_
  refine Triple.bind (Q := fun _ => Tells every progress) (fun s w h => ⟨?_, h.2⟩) fun _ => ?_
  · exact (Telemetry.every_observe t passed e).trans same
  · rw [← logs t passed same]
    exact tells_logAll _

theorem tells_quietly {e : Event}
    (quiet : ∀ (t : Telemetry) (elapsed : Double),
      (t.observe elapsed e).2.filter (fun r => r.TellsProgress) = []) :
    Triple (Tells every progress) ((loggedPipeline content sink now started).observe e)
      fun _ => Tells every progress := by
  have told : Triple (Tells every progress) ((loggedPipeline content sink now started).observe e)
      fun _ => Tells every (progress ++ []) := tells_observe fun t elapsed _ => quiet t elapsed
  rwa [List.append_nil] at told

theorem tells_stageDone (stage : String) (start : Nat) :
    Triple (Tells every progress) ((loggedPipeline content sink now started).stageDone stage start)
      fun _ => Tells every progress :=
  Triple.bind (tells_aside now) fun _ => tells_quietly fun _ _ => rfl

theorem tells_frameDone {total : Nat} (some : 0 < total) (stats : RunStats) (f : Frame)
    (labels : Nat) :
    Triple (Tells every progress)
      ((loggedPipeline content sink now started).frameDone total stats f labels)
      fun _ => Tells every (progress ++ Telemetry.due every total stats.frames) := by
  refine Triple.bind (tells_quietly fun _ _ => rfl) fun _ =>
    Triple.bind (tells_quietly fun _ _ => rfl) fun _ => ?_
  refine tells_observe fun t elapsed same => ?_
  rw [Telemetry.progress_observe some, same]

theorem tells_connect (path : String) :
    Triple (Tells every progress) ((loggedPipeline content sink now started).source.connect path)
      fun _ => Tells every progress := by
  refine Triple.bind (Q := fun _ => Tells every progress) (fun _ _ h => h) fun found => ?_
  refine Triple.bind (Q := fun _ => Tells every progress) (fun _ _ h => h) fun r => ?_
  refine Triple.bind (Q := fun _ => Tells every progress) (fun _ _ h => h) fun _ => ?_
  refine Triple.bind (Q := fun _ => Tells every progress) ?_ fun _ => Triple.done fun _ _ h => h
  have quiet : (r.connect path found).2.2.filter (fun r => r.TellsProgress) = [] := by
    unfold LineReader.connect
    split
    · rfl
    · exact List.filter_cons_of_neg
        (by simp [Record.TellsProgress, LineReader.openedRecord, Record.debug])
  have logged : Triple (Tells (β := β) every progress) _ _ :=
    tells_logAll (r.connect path found).2.2
  rwa [quiet, List.append_nil] at logged

theorem tells_process (f : Frame) :
    Triple (Tells every progress) ((loggedPipeline content sink now started).processor.process f)
      fun processed s w => Tells every progress s w ∧ processed.outcome ≠ .ok false := by
  refine Triple.bind (Q := fun _ => Tells every progress) (fun _ _ h => h) fun a => ?_
  refine Triple.bind (Q := fun _ => Tells every progress) (fun _ _ h => h) fun _ => ?_
  refine Triple.bind (Q := fun _ => Tells every progress) ?_ fun _ =>
    Triple.done fun s w h => ⟨h, ?_⟩
  · have logged : Triple (Tells (β := β) every progress) _ _ := tells_logAll f.survey.records
    rwa [f.progress_survey, List.append_nil] at logged
  · split <;> simp

/-! ### The rounds -/

/-- What some rounds have come to, and what they have logged, if none of them failed. -/
def Advances (every total : Nat) (progress : List Record) (stats : RunStats) (n : Nat) :
    Except (RunFault RecordingFault Undecodable) RunStats → Session Memory → β × List Record → Prop
  | .error _, _, _ => True
  | .ok after, s, w =>
    Tells every (progress ++ (List.range' (stats.frames + 1) n).flatMap (Telemetry.due every total))
      s w ∧ after.frames = stats.frames + n ∧ after.stoppedEarly = stats.stoppedEarly

/-- One round and then others. -/
theorem Advances.cons {total n : Nat} {stats after : RunStats}
    {outcome : Except (RunFault RecordingFault Undecodable) RunStats}
    {s : Session Memory} {w : β × List Record} (frames : after.frames = stats.frames + 1)
    (same : after.stoppedEarly = stats.stoppedEarly)
    (h : Advances every total
      (progress ++ (List.range' (stats.frames + 1) 1).flatMap (Telemetry.due every total)) after n
      outcome s w) : Advances every total progress stats (n + 1) outcome s w := by
  cases outcome with
  | error fault => trivial
  | ok last =>
      obtain ⟨tells, count, still⟩ := h
      rw [frames] at tells count
      refine ⟨?_, by omega, still.trans same⟩
      rwa [List.append_assoc, ← List.flatMap_append, List.range'_append_1,
        Nat.add_comm 1 n] at tells

theorem advances_round {total : Nat} (some : 0 < total) (stats : RunStats) (number : Nat)
    (line : List Char) :
    Triple (Tells every progress)
      ((loggedPipeline content sink now started).round total stats
        ((fun _ => LineReader.readLine number line) <$> pure ()))
      (Advances every total progress stats 1) := by
  refine Triple.bind (tells_aside now) fun start => ?_
  refine Triple.bind (Q := fun _ => Tells every progress) (fun _ _ h => h) fun read => ?_
  cases read with
  | error cause => exact Triple.done fun _ _ _ => trivial
  | ok f =>
      refine Triple.bind (tells_stageDone _ _) fun _ =>
        Triple.bind (tells_aside now) fun start => ?_
      refine Triple.bind (tells_process f) fun processed => Triple.of_and fun goes_on => ?_
      cases outcome : processed.outcome with
      | error cause => exact Triple.done fun _ _ _ => trivial
      | ok goOn =>
          refine Triple.bind (tells_stageDone _ _) fun _ =>
            Triple.bind (tells_aside now) fun start => ?_
          refine Triple.bind (Q := fun _ => Tells every progress) (tells_aside _) fun written => ?_
          cases written with
          | error cause => exact Triple.done fun _ _ _ => trivial
          | ok _ =>
              refine Triple.bind (tells_stageDone _ _) fun _ => ?_
              refine Triple.bind (Q := fun _ => Tells every progress) (fun _ _ h => h)
                fun labels => ?_
              refine Triple.bind (tells_frameDone some _ _ _) fun _ => ?_
              cases goOn with
              | false => exact absurd outcome goes_on
              | true => exact Triple.done fun s w h => ⟨by simpa [RunStats.add] using h, rfl, rfl⟩

/-- The rounds add what is due for each of their numbers. -/
theorem advances_rounds {total : Nat} (some : 0 < total) (stats : RunStats)
    (going : stats.stoppedEarly = false) (lines : List (Nat × List Char)) :
    Triple (Tells every progress)
      ((loggedPipeline content sink now started).rounds total (pure ()) stats (lineItems lines))
      (Advances every total progress stats lines.length) := by
  induction lines generalizing stats progress with
  | nil => exact Triple.done fun s w h => ⟨by simpa using h, rfl, rfl⟩
  | cons line lines ih =>
      refine Triple.bind (advances_round some stats line.1 line.2) fun outcome => ?_
      cases outcome with
      | error fault => exact Triple.done fun _ _ _ => trivial
      | ok after =>
          refine Triple.of_and (P := Tells every _) fun ⟨frames, same⟩ => ?_
          have going : after.stoppedEarly = false := same.trans going
          simp only [going, Bool.false_eq_true, if_false]
          exact fun s w tells => .cons frames same (ih after going s w tells)

variable {r : LineReader} {a : Annotator} {v : LineWriter Memory}

/-- To open a recording is to take its lines that are not blank. -/
theorem holds_connect (path : String) :
    Triple (Holds r a v) ((loggedPipeline content sink now started).source.connect path)
        fun outcome s w =>
      outcome = .ok (heldLines content).length ∧ Holds ⟨some (heldLines content)⟩ a v s w := by
  have connects : LineReader.connect r path (.ok (Text.encode content)) =
      (⟨some (heldLines content)⟩, .ok ⟨(heldLines content).length, path⟩,
        [LineReader.openedRecord path (heldLines content).length]) := by
    simp only [LineReader.connect, LineReader.textOf, Text.decode_encode, frameLines_eq_heldLines]
  have opens : Triple (Holds r a v) ((loggedPipeline content sink now started).source.connect path)
        fun outcome s w =>
      outcome = (r.connect path (.ok (Text.encode content))).2.1.map Overview.frames ∧
        Holds (r.connect path (.ok (Text.encode content))).1 a v s w :=
    @triple_connect _ _ r a v (fun _ => pure (.ok (Text.encode content))) Memory.device keepRecord
      (aside now) started path _ fun _ => rfl
  rwa [connects] at opens

theorem holds_observe (e : Event) :
    Triple (Holds r a v) ((loggedPipeline content sink now started).observe e) fun _ =>
      Holds r a v :=
  @triple_observe _ _ r a v (fun _ => pure (.ok (Text.encode content))) Memory.device keepRecord
    (aside now) started e

theorem holds_frames :
    Triple (Holds ⟨some (heldLines content)⟩ a v)
      (loggedPipeline content sink now started).source.frames
      fun feed s w =>
        feed = ⟨lineItems (heldLines content), pure ()⟩ ∧
          Holds ⟨some (heldLines content)⟩ a v s w :=
  @triple_frames _ _ a Memory.device (fun _ => pure (.ok (Text.encode content))) keepRecord
    (aside now) started _ v

/-- A good run has told what was due for each of its frames, and has counted them all. -/
theorem tells_run (path : String)
    (some : 0 < (heldLines content).length) :
    Triple (fun s w => Holds r a v s w ∧ Tells every [] s w)
      ((loggedPipeline content sink now started).run path)
      fun outcome s w => ∀ stats, outcome = .ok stats →
        stats.frames = (heldLines content).length ∧
          Tells every ((List.range' 1 (heldLines content).length).flatMap
            (Telemetry.due every (heldLines content).length)) s w := by
  refine Triple.bind_of_eq (a := .ok (heldLines content).length)
    (Q := fun _ s w => Holds ⟨.some (heldLines content)⟩ a v s w ∧ Tells every [] s w)
    (fun s w h => ?_) ?_
  · obtain ⟨opened, holds⟩ := holds_connect path s w h.1
    exact ⟨opened, holds, tells_connect path s w h.2⟩
  refine Triple.bind (Triple.and (holds_observe _) (tells_quietly fun _ _ => ?_)) fun _ => ?_
  · exact List.filter_cons_of_neg (by simpa using Record.not_tellsProgress_opening _ _)
  refine Triple.bind_of_eq (Q := fun _ => Tells every [])
    (fun s w h => ⟨(holds_frames s w h.1).1, h.2⟩) ?_
  refine Triple.bind (advances_rounds some {} rfl (heldLines content)) fun outcome => ?_
  cases outcome with
  | error fault =>
      refine Triple.bind (Q := fun _ _ _ => True) (fun _ _ _ => trivial) fun _ => ?_
      refine Triple.bind (Q := fun _ _ _ => True) (fun _ _ _ => trivial) fun closed => ?_
      exact Triple.done fun _ _ _ stats eq => by cases eq
  | ok after =>
      refine Triple.of_and (P := Tells every _) fun ⟨frames, _⟩ => ?_
      refine Triple.bind (Q := fun _ => Tells every _) (fun _ _ h => h) fun _ => ?_
      refine Triple.bind (Q := fun _ => Tells every _) (tells_aside _) fun closed => ?_
      cases closed with
      | error cause => exact Triple.done fun _ _ _ stats eq => by cases eq
      | ok _ =>
          refine Triple.bind (tells_quietly fun _ _ => Telemetry.progress_observe_finished)
            fun _ => ?_
          refine Triple.done fun s w h stats eq => ?_
          cases eq
          rw [Nat.zero_add] at h frames
          exact ⟨frames, h⟩

end Operations

/-! ### Which steps are due -/

/-- A number of frames divided by itself is one, although the number may have been rounded. -/
theorem ofNat_div_self {n : Nat} (some : 0 < n) (small : n < 2 ^ 64) :
    (Binary.ofNat n : Double).div (Binary.ofNat n) = Binary.ofNat 1 := by
  have below : ((n : Nat) : ℚ) / (1 : Nat) ≤ (1 : Nat) * 2 ^ (64 : Int) := by
    have le : (n : ℚ) ≤ 2 ^ 64 := by exact_mod_cast small.le
    rw [Nat.cast_one, div_one, one_mul]
    exact_mod_cast le
  have above : ((1 : Nat) : ℚ) * 2 ^ (0 : Int) ≤ (n : Nat) / (1 : Nat) := by
    have le : (1 : ℚ) ≤ n := by exact_mod_cast some
    rw [Nat.cast_one, one_mul, zpow_zero, div_one]
    exact le
  obtain ⟨finite, -⟩ := Binary.round_le Format.proper_double false Nat.one_pos
    (representable_double (by decide) (by decide) (by decide)) below
  have size := Binary.le_round Format.proper_double Nat.one_pos
    (representable_double (by decide) (by decide) (by decide)) above finite
  have nonzero : |(Binary.round false n 1 : Double).exact| ≠ 0 := by
    intro zero
    rw [zero] at size
    norm_num at size
  obtain ⟨num, den, pos, quotient, eq⟩ :=
    Binary.div_eq_round Format.proper_double finite finite (abs_ne_zero.1 nonzero)
  rw [div_self nonzero] at quotient
  have value : (Binary.ofNat 1 : Double).value = .finite false (2 ^ 52) (-52) := by decide +kernel
  rw [Binary.ofNat, eq, bne_self_eq_false]
  refine Binary.round_of_contains Format.proper_double value (by decide) pos ?_
  rw [quotient, Interval.Contains, if_pos (by decide)]
  have low : ((Interval.around .double (2 ^ 52) (-52)).low : ℚ) ≤ 2 ^ 54 := by
    have le : (Interval.around .double (2 ^ 52) (-52)).low ≤ 2 ^ 54 := by decide
    exact_mod_cast le
  norm_num [Interval.around] at low ⊢

/-- The percentage of the whole. -/
theorem percentage_self {n : Nat} (some : 0 < n) (small : n < 2 ^ 64) :
    (percentage n n).fixed 1 = ['1', '0', '0', '.', '0'] := by
  rw [percentage, ofNat_div_self some small]
  decide +kernel

theorem labeled_self {n : Nat} (some : 0 < n) (small : n < 2 ^ 64) :
    Record.labeled n n = .info .pipeline s!"Labeled {n}/{n} frames (100.0%)" := by
  have behind :
      toString " frames (" ++ toString (String.ofList ['1', '0', '0', '.', '0']) ++ toString "%)" =
        toString " frames (100.0%)" := by decide
  rw [Record.labeled, percentage_self some small, ← behind]
  simp only [String.append_assoc]

theorem flatMap_due (every total : Nat) (steps : List Nat) :
    steps.flatMap (Telemetry.due every total) =
      (steps.filter fun i => every ∣ i ∨ i = total).map fun i => .labeled i total := by
  induction steps with
  | nil => rfl
  | cons i steps ih =>
      rw [List.flatMap_cons, ih, Telemetry.due, List.filter_cons]
      by_cases h : every ∣ i ∨ i = total <;> simp [h]

/-- Every so many steps there is one. -/
theorem length_multiples (every n : Nat) :
    ((List.range' 1 n).filter (every ∣ ·)).length = n / every := by
  induction n with
  | zero => simp
  | succ n ih =>
      rw [List.range'_1_concat, List.filter_append, List.length_append, ih, Nat.succ_div,
        Nat.add_comm 1 n]
      by_cases h : every ∣ n + 1 <;> simp [h]

/-- The last step is due, and of the others the multiples. -/
theorem filter_due (every n : Nat) :
    ((List.range' 1 (n + 1)).filter fun i => every ∣ i ∨ i = n + 1) =
      (List.range' 1 n).filter (every ∣ ·) ++ [n + 1] := by
  have last : [n + 1].filter (fun i => every ∣ i ∨ i = n + 1) = [n + 1] := by simp
  rw [List.range'_1_concat, List.filter_append, Nat.add_comm 1 n, last]
  congr 1
  refine List.filter_congr fun i mem => ?_
  have := (List.mem_range'_1.1 mem).2
  simp [show i ≠ n + 1 by omega]

theorem length_due {every total : Nat} (pos : 0 < every) (some : 0 < total) :
    ((List.range' 1 total).filter fun i => every ∣ i ∨ i = total).length =
      (total + every - 1) / every := by
  obtain ⟨n, rfl⟩ := Nat.exists_eq_add_of_le' some
  rw [filter_due, List.length_append, length_multiples, List.length_singleton, Nat.add_right_comm,
    Nat.add_sub_cancel, Nat.add_div_right _ pos]

/-- A good run over a recording with frames, observed by telemetry that is new:

* it counts as many frames as the recording has lines that are not blank;
* of its log, the records of progress are those of the frames that the throttle divides and of the
  last frame, each once and in order;
* there is one for every so many frames, and one more for what is left;
* the last one tells that all frames are labeled, if a word can count them.

Where the frames are written, what the clock says, and what else is logged makes no difference. -/
theorem run_tells_progress {β : Type} (content : List Char) (sink : Sink (StateM β) RecordingFault)
    (now : StateM β Nat) (started every : Nat) (path : String) (r : LineReader) (a : Annotator)
    (v : LineWriter Memory) (b : β) {stats : RunStats} :
    let total := (heldLines content).length
    let throttle := max every 1
    let ran := (loggedPipeline content sink now started).run path ⟨r, a, v, .new every⟩ (b, [])
    let progress := ran.2.2.filter fun r => r.TellsProgress
    ran.1.1 = .ok stats → 0 < total →
      stats.frames = total ∧
      progress = ((List.range' 1 total).filter fun i => throttle ∣ i ∨ i = total).map
        (.labeled · total) ∧ progress.length = (total + throttle - 1) / throttle ∧
      (total < 2 ^ 64 → progress.getLast? =
        some (.info .pipeline s!"Labeled {total}/{total} frames (100.0%)")) := by
  intro total throttle ran progress came some
  have start : Holds r a v ⟨r, a, v, .new every⟩ (b, ([] : List Record)) ∧
      Tells throttle [] ⟨r, a, v, .new every⟩ (b, ([] : List Record)) := ⟨⟨rfl, rfl, rfl⟩, rfl, rfl⟩
  obtain ⟨frames, -, told⟩ := tells_run path some _ _ start stats came
  have eq : progress = ((List.range' 1 total).filter fun i => throttle ∣ i ∨ i = total).map
      (.labeled · total) :=
    told.trans (flatMap_due throttle total _)
  refine ⟨frames, eq, ?_, fun small => ?_⟩
  · rw [eq, List.length_map, length_due (Nat.le_max_right every 1) some]
  · obtain ⟨n, last⟩ := Nat.exists_eq_add_of_le' some
    rw [eq, last, filter_due, List.map_append, List.map_singleton, List.getLast?_concat, ← last,
      labeled_self some small]

/-- Three frames without faces, and two blank lines among them. -/
def spacedFrames : List Char :=
  (⟨0, []⟩ : Frame).json ++ ['\n', '\n'] ++ (⟨1, []⟩ : Frame).json ++ ['\n', ' ', '\n'] ++
    (⟨2, []⟩ : Frame).json

/-- A sink that takes everything. -/
def easySink : Sink (StateM Unit) RecordingFault := ⟨fun _ => pure (.ok ()), pure (.ok ())⟩

/-- With a throttle of two, progress is told for the second frame and for the last. -/
theorem run_tells_progress_of_spacedFrames :
    let ran := (loggedPipeline spacedFrames easySink (pure 0) 0).run "in"
      ⟨{}, {}, ⟨true, {}⟩, .new 2⟩ ((), [])
    ran.1.1 = .ok ⟨3, 0, 0, false⟩ ∧ 0 < (heldLines spacedFrames).length ∧
      ran.2.2.filter (fun r => r.TellsProgress) = [.labeled 2 3, .labeled 3 3] ∧
      (ran.2.2.filter fun r => r.TellsProgress).getLast? =
        some (.info .pipeline "Labeled 3/3 frames (100.0%)") := by
  have came :
      ((loggedPipeline spacedFrames easySink (pure 0) 0).run "in" ⟨{}, {}, ⟨true, {}⟩, .new 2⟩
        ((), [])).1.1 = .ok ⟨3, 0, 0, false⟩ := by decide +kernel
  have three : (heldLines spacedFrames).length = 3 := by decide +kernel
  have some : 0 < (heldLines spacedFrames).length := by
    rw [three]
    decide
  obtain ⟨-, told, -, last⟩ :=
    run_tells_progress spacedFrames easySink (pure 0) 0 2 "in" {} {} ⟨true, {}⟩ () came some
  rw [three] at told last
  exact ⟨came, some, told, last (by decide)⟩

end Session

end FaceAnnotator
