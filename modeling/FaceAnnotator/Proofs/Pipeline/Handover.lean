import FaceAnnotator.Proofs.Pipeline.Trace
import FaceAnnotator.Proofs.Triple
import Mathlib.Algebra.Order.Ring.Nat
/-!
# FaceAnnotator.Proofs.Pipeline.Handover

**Which frames reach the sink**, and what the counts of a run say about them.

Here the parts of a pipeline are strangers to each other: each has a state of its own (`Parts`). So
it can be said without looking at a run what its source would give, how its processor would treat
those frames one after the other, and how its sink would take what comes of that. `Parts.handed`
puts that together from functions on lists. A run hands over exactly those frames, and if it comes
to counts, they are theirs. It does if nothing was in the way (`Smooth`).

`TracesAt` is `Traces` at one state, with what is known of the state afterwards. What a round
does to the states is said by `Passing`, and the induction over the items that are left goes
by its cases.
-/

namespace FaceAnnotator

/-! ### Parts with states of their own -/

/-- The states of parts that are strangers to each other. -/
structure PartStates (α ρ τ β : Type) where
  /-- What the source remembers. -/
  source : α
  /-- What the processor remembers. -/
  processor : ρ
  /-- What the sink remembers. -/
  sink : τ
  /-- What the observer and the clock remember. -/
  audience : β

variable {α ρ τ β γ ε π : Type}

/-- An operation on a part of a state. -/
def within {σ : Type} (get : σ → α) (set : α → σ → σ) (x : StateM α γ) : StateM σ γ :=
  fun s => ((x (get s)).1, set (x (get s)).2 s)

namespace PartStates

/-- An operation of the source. -/
def inSource (x : StateM α γ) : StateM (PartStates α ρ τ β) γ :=
  within PartStates.source (fun a s => { s with source := a }) x

/-- An operation of the processor. -/
def inProcessor (x : StateM ρ γ) : StateM (PartStates α ρ τ β) γ :=
  within PartStates.processor (fun r s => { s with processor := r }) x

/-- An operation of the sink. -/
def inSink (x : StateM τ γ) : StateM (PartStates α ρ τ β) γ :=
  within PartStates.sink (fun t s => { s with sink := t }) x

/-- An operation of the observer or the clock. -/
def inAudience (x : StateM β γ) : StateM (PartStates α ρ τ β) γ :=
  within PartStates.audience (fun o s => { s with audience := o }) x

variable {a a' : α} {r r' : ρ} {t t' : τ} {o o' : β} {c : γ}

theorem inSource_run {x : StateM α γ} (run : x a = (c, a')) :
    inSource x (⟨a, r, t, o⟩ : PartStates α ρ τ β) = (c, ⟨a', r, t, o⟩) := by
  simp only [inSource, within, run]

theorem inProcessor_run {x : StateM ρ γ} (run : x r = (c, r')) :
    inProcessor x (⟨a, r, t, o⟩ : PartStates α ρ τ β) = (c, ⟨a, r', t, o⟩) := by
  simp only [inProcessor, within, run]

theorem inSink_run {x : StateM τ γ} (run : x t = (c, t')) :
    inSink x (⟨a, r, t, o⟩ : PartStates α ρ τ β) = (c, ⟨a, r, t', o⟩) := by
  simp only [inSink, within, run]

end PartStates

open PartStates

/-- The parts of a pipeline, each over a state of its own. -/
structure Parts (α ρ τ β ε π : Type) where
  source : Source (StateM α) ε
  processor : Processor (StateM ρ) π
  sink : Sink (StateM τ) ε
  observe : Event → StateM β Unit
  now : StateM β Nat

/-- A feed among other parts. -/
def Feed.inSource (feed : Feed (StateM α) ε) : Feed (StateM (PartStates α ρ τ β)) ε where
  items := feed.items.map PartStates.inSource
  finish := PartStates.inSource feed.finish

namespace Parts

/-- The pipeline of the parts. -/
def pipeline (parts : Parts α ρ τ β ε π) : Pipeline (StateM (PartStates α ρ τ β)) ε π where
  source := {
    connect := fun path => PartStates.inSource (parts.source.connect path)
    frames := do
      let feed ← PartStates.inSource parts.source.frames
      pure feed.inSource
    close := PartStates.inSource parts.source.close }
  processor := {
    process := fun f => inProcessor (parts.processor.process f)
    labelCount := inProcessor parts.processor.labelCount }
  sink := {
    write := fun f => inSink (parts.sink.write f)
    close := inSink parts.sink.close }
  observe := fun e => inAudience (parts.observe e)
  now := inAudience parts.now

end Parts

/-! ### What is to be handed over -/

/-- What some steps come to, one after the other, by the first of them. -/
theorem fst_mapM_cons {σ δ : Type} (f : γ → StateM σ δ) (x : γ) (xs : List γ) (s : σ) :
    ((x :: xs).mapM f s).1 = (f x s).1 :: (xs.mapM f (f x s).2).1 := by
  rw [List.mapM_cons]
  rfl

theorem snd_mapM_cons {σ δ : Type} (f : γ → StateM σ δ) (x : γ) (xs : List γ) (s : σ) :
    ((x :: xs).mapM f s).2 = (xs.mapM f (f x s).2).2 := by
  rw [List.mapM_cons]
  rfl

/-- The frames before the first item that is none. -/
def readable : List (Except ε Frame) → List Frame
  | .ok f :: items => f :: readable items
  | _ => []

/-- The elements up to the first of a kind, and that one. -/
def throughFirst (last : γ → Bool) : List γ → List γ
  | [] => []
  | x :: xs => if last x then [x] else x :: throughFirst last xs

/-- A frame as it was processed, with the number of labels that the processor tells right after
that, and what the sink says to it. -/
structure Passage (ε π : Type) where
  processed : Processed π
  labels : Nat
  verdict : Except ε Unit

/-- After this passage there is no other: the processor wants to stop, or the sink has
refused the frame. -/
def Passage.isLast (passage : Passage ε π) : Bool :=
  match passage.processed.outcome, passage.verdict with
  | .ok true, .ok _ => false
  | _, _ => true

/-- Nothing stood in the way of some items: the sink has taken all frames of the passages, and there
is a passage for each item, unless the processor stopped before. -/
def Smooth (handed : List (Passage ε π)) (items : Nat) : Prop :=
  (∀ passage ∈ handed, passage.verdict = .ok ()) ∧
    ((∃ last ∈ handed.getLast?, last.processed.outcome = .ok false) ∨ handed.length = items)

namespace Smooth

variable {handed : List (Passage ε π)} {processed : Processed π} {labels items : Nat}

theorem nil : Smooth ([] : List (Passage ε π)) 0 := by simp [Smooth]

theorem not_nil : ¬Smooth ([] : List (Passage ε π)) (items + 1) := by simp [Smooth]

theorem not_refused {cause : ε} :
    ¬Smooth [(⟨processed, labels, .error cause⟩ : Passage ε π)] items := by
  simp [Smooth]

theorem of_stopped (agreed : processed.outcome = .ok false) :
    Smooth [(⟨processed, labels, .ok ()⟩ : Passage ε π)] items := by
  simp [Smooth, agreed]

/-- A frame that the processor does not stop at and the sink takes does not matter. -/
theorem cons_iff (agreed : processed.outcome = .ok true) :
    Smooth ((⟨processed, labels, .ok ()⟩ : Passage ε π) :: handed) (items + 1) ↔
      Smooth handed items := by
  cases handed with
  | nil => simp [Smooth, agreed, eq_comm]
  | cons next handed => simp [Smooth, List.getLast?_cons_cons]

end Smooth

namespace Parts

variable (parts : Parts α ρ τ β ε π)

/-- What there is to read once the source is connected: what its items come to, one after the
other. -/
def reads (connected : α) : List (Except ε Frame) :=
  let (feed, a) := parts.source.frames connected
  (feed.items.mapM id a).1

/-- Has a frame processed, and asks for its labels. -/
def treat (f : Frame) : StateM ρ (Processed π × Nat) := do
  let processed ← parts.processor.process f
  let labels ← parts.processor.labelCount
  pure (processed, labels)

/-- Some frames as they are processed, one after the other, before the first that cannot be. -/
def accepted (frames : List Frame) (r : ρ) : List (Processed π × Nat) :=
  (frames.mapM parts.treat r).1.takeWhile fun (processed, _) => processed.outcome.isOk

/-- What the sink says to some frames, one after the other. -/
def verdicts (frames : List Frame) (t : τ) : List (Except ε Unit) :=
  (frames.mapM parts.sink.write t).1

/-- The passages of some items: those of the frames before the first item that cannot be read and
the first frame that cannot be processed, through the first after which there is no other. -/
def handed (items : List (Except ε Frame)) (r : ρ) (t : τ) : List (Passage ε π) :=
  let accepted := parts.accepted (readable items) r
  let verdicts := parts.verdicts (accepted.map fun (processed, _) => processed.frame) t
  throughFirst Passage.isLast
    (accepted.zipWith (fun (processed, labels) verdict => ⟨processed, labels, verdict⟩) verdicts)

/-- What the sink remembers after some passages. -/
def sinkAfter (handed : List (Passage ε π)) (t : τ) : τ :=
  ((handed.map fun passage => passage.processed.frame).mapM parts.sink.write t).2

/-! The passages of items, by the first of them. -/

variable {parts}
variable {f : Frame} {processed : Processed π} {labels : Nat} {verdict : Except ε Unit} {r r' : ρ}
  {t t' : τ}

theorem handed_of_unread (cause : ε) (items : List (Except ε Frame)) :
    parts.handed (.error cause :: items) r t = [] := rfl

theorem accepted_cons (treated : parts.treat f r = ((processed, labels), r'))
    (frames : List Frame) :
    parts.accepted (f :: frames) r =
      if processed.outcome.isOk then (processed, labels) :: parts.accepted frames r' else [] := by
  rw [accepted, fst_mapM_cons, treated, List.takeWhile_cons]
  rfl

theorem verdicts_cons (told : parts.sink.write f t = (verdict, t')) (frames : List Frame) :
    parts.verdicts (f :: frames) t = verdict :: parts.verdicts frames t' := by
  rw [verdicts, fst_mapM_cons, told, verdicts]

theorem sinkAfter_cons (told : parts.sink.write processed.frame t = (verdict, t'))
    (handed : List (Passage ε π)) :
    parts.sinkAfter (⟨processed, labels, verdict⟩ :: handed) t = parts.sinkAfter handed t' := by
  rw [sinkAfter, List.map_cons, snd_mapM_cons, told, sinkAfter]

theorem handed_of_refused {cause : π} (treated : parts.treat f r = ((processed, labels), r'))
    (refusal : processed.outcome = .error cause) (items : List (Except ε Frame)) :
    parts.handed (.ok f :: items) r t = [] := by
  rw [handed, readable, accepted_cons treated, refusal]
  rfl

theorem handed_of_accepted {goOn : Bool} (treated : parts.treat f r = ((processed, labels), r'))
    (agreed : processed.outcome = .ok goOn)
    (told : parts.sink.write processed.frame t = (verdict, t')) (items : List (Except ε Frame)) :
    parts.handed (.ok f :: items) r t =
      if Passage.isLast ⟨processed, labels, verdict⟩ then [⟨processed, labels, verdict⟩]
      else ⟨processed, labels, verdict⟩ :: parts.handed items r' t' := by
  have first : processed.outcome.isOk = true := by rw [agreed]; rfl
  rw [handed, readable, accepted_cons treated, if_pos first, List.map_cons, verdicts_cons told,
    List.zipWith_cons_cons, throughFirst]
  rfl

end Parts

/-! ### What a round does -/

/-- The frame that a call brings to the sink. -/
def Call.written? : Call ε π → Option Frame
  | .write f _ => some f
  | _ => none

/-- The frame that a call could not have processed, and why. -/
def Call.refused? : Call ε π → Option (UInt64 × π)
  | .process _ processed =>
    match processed.outcome with
    | .error cause => some (processed.frame.index, cause)
    | .ok _ => none
  | _ => none

/-- The frames that calls bring to the sink. -/
def writtenFrames (calls : List (Call ε π)) : List Frame := calls.filterMap Call.written?

/-- The frames that calls could not have processed. -/
def refusals (calls : List (Call ε π)) : List (UInt64 × π) := calls.filterMap Call.refused?

theorem writtenFrames_append (calls others : List (Call ε π)) :
    writtenFrames (calls ++ others) = writtenFrames calls ++ writtenFrames others :=
  List.filterMap_append

theorem refusals_append (calls others : List (Call ε π)) :
    refusals (calls ++ others) = refusals calls ++ refusals others :=
  List.filterMap_append

theorem Call.refused?_eq_some {call : Call ε π} {index : UInt64} {cause : π} :
    call.refused? = some (index, cause) ↔
      ∃ f processed, call = .process f processed ∧ processed.outcome = .error cause ∧
        processed.frame.index = index := by
  constructor
  · intro h
    cases call with
    | process f processed =>
        cases outcome : processed.outcome with
        | error cause' =>
            simp only [refused?, outcome, Option.some.injEq, Prod.mk.injEq] at h
            exact ⟨f, processed, rfl, by rw [outcome, h.2], h.1⟩
        | ok goOn => simp [refused?, outcome] at h
    | _ => cases h
  · rintro ⟨f, processed, rfl, refusal, rfl⟩
    simp only [refused?, refusal]

theorem mem_refusals {calls : List (Call ε π)} {index : UInt64} {cause : π} :
    (index, cause) ∈ refusals calls ↔
      ∃ f processed, .process f processed ∈ calls ∧ processed.outcome = .error cause ∧
        processed.frame.index = index := by
  simp only [refusals, List.mem_filterMap, Call.refused?_eq_some]
  constructor
  · rintro ⟨call, mem, f, processed, rfl, rest⟩
    exact ⟨f, processed, mem, rest⟩
  · rintro ⟨f, processed, mem, rest⟩
    exact ⟨_, mem, f, processed, rfl, rest⟩

namespace Parts

variable (parts : Parts α ρ τ β ε π)

/-- How an item fares in a round: which calls there are, what they come to, and in which states they
leave the parts as far as that matters for the next item. -/
inductive Passing (item : StateM α (Except ε Frame)) (stats : RunStats) (s : PartStates α ρ τ β) :
    List (Call ε π) → Except (RunFault ε π) RunStats → PartStates α ρ τ β → Prop where
  /-- There is no frame to be had. -/
  | unread {calls : List (Call ε π)} {a : α} {s' : PartStates α ρ τ β} (cause : ε)
      (read : item s.source = (.error cause, a))
      (none_written : writtenFrames calls = []) (none_refused : refusals calls = [])
      (kept : s'.sink = s.sink) :
      Passing item stats s calls (.error (.transfer cause)) s'
  /-- The frame cannot be processed. -/
  | unprocessed {calls : List (Call ε π)} {a : α} {r : ρ} {s' : PartStates α ρ τ β}
      (f : Frame) (processed : Processed π) (labels : Nat) (cause : π)
      (read : item s.source = (.ok f, a))
      (treated : parts.treat f s.processor = ((processed, labels), r))
      (refusal : processed.outcome = .error cause)
      (none_written : writtenFrames calls = [])
      (one_refused : refusals calls = [(processed.frame.index, cause)]) (kept : s'.sink = s.sink) :
      Passing item stats s calls (.error (.processing processed.frame.index cause)) s'
  /-- The sink does not take the frame. -/
  | unwritten {calls : List (Call ε π)} {a : α} {r : ρ} {t : τ} {s' : PartStates α ρ τ β}
      (f : Frame) (processed : Processed π) (labels : Nat) (goOn : Bool) (cause : ε)
      (read : item s.source = (.ok f, a))
      (treated : parts.treat f s.processor = ((processed, labels), r))
      (agreed : processed.outcome = .ok goOn)
      (told : parts.sink.write processed.frame s.sink = (.error cause, t))
      (one_written : writtenFrames calls = [processed.frame]) (none_refused : refusals calls = [])
      (brought : s'.sink = t) :
      Passing item stats s calls (.error (.transfer cause)) s'
  /-- The sink takes the frame. -/
  | taken {calls : List (Call ε π)} {a : α} {r : ρ} {t : τ} {o : β}
      (f : Frame) (processed : Processed π) (labels : Nat) (goOn : Bool)
      (read : item s.source = (.ok f, a))
      (treated : parts.treat f s.processor = ((processed, labels), r))
      (agreed : processed.outcome = .ok goOn)
      (told : parts.sink.write processed.frame s.sink = (.ok (), t))
      (one_written : writtenFrames calls = [processed.frame]) (none_refused : refusals calls = []) :
      Passing item stats s calls
        (.ok (if goOn then stats.add processed.frame labels
          else { stats.add processed.frame labels with stoppedEarly := true }))
        ⟨a, r, t, o⟩

variable {parts}

section Audience

variable {a : α} {r : ρ} {t : τ} {o : β} {δ : Type}
  {R : List (Call ε π) → δ → PartStates α ρ τ β → Prop}

/-- Looking at the clock concerns nobody but the audience. -/
theorem tracesAt_now_bind {f : Nat → StateT (List (Call ε π)) (StateM (PartStates α ρ τ β)) δ}
    {g : Nat → StateM (PartStates α ρ τ β) δ}
    (h : ∀ start o, TracesAt ⟨a, r, t, o⟩ (f start) (g start) R) :
    TracesAt ⟨a, r, t, o⟩ (parts.pipeline.traced.now >>= f) (parts.pipeline.now >>= g) R :=
  TracesAt.unnoted_bind rfl (h _ _)

variable {f : Unit → StateT (List (Call ε π)) (StateM (PartStates α ρ τ β)) δ}
  {g : Unit → StateM (PartStates α ρ τ β) δ}

/-- Nor does what the observer is told. -/
theorem tracesAt_observe_bind {e : Event}
    (h : ∀ o, TracesAt ⟨a, r, t, o⟩ (f ()) (g ()) fun calls b => R (.tell e :: calls) b) :
    TracesAt ⟨a, r, t, o⟩ (parts.pipeline.traced.observe e >>= f) (parts.pipeline.observe e >>= g)
      R :=
  TracesAt.noted_bind rfl (h _)

theorem tracesAt_stageDone_bind {stage : String} {start : Nat}
    (h : ∀ o e, TracesAt ⟨a, r, t, o⟩ (f ()) (g ()) fun calls b => R (.tell e :: calls) b) :
    TracesAt ⟨a, r, t, o⟩ (parts.pipeline.traced.stageDone stage start >>= f)
      (parts.pipeline.stageDone stage start >>= g) R := by
  rw [Pipeline.stageDone, Pipeline.stageDone, bind_assoc, bind_assoc]
  exact tracesAt_now_bind fun now o => tracesAt_observe_bind fun o => h o _

theorem tracesAt_frameDone_bind {total : Nat} {stats : RunStats} {g' : Frame} {labels : Nat}
    (h : ∀ o e e' e'', TracesAt ⟨a, r, t, o⟩ (f ()) (g ())
      fun calls b => R (.tell e :: .tell e' :: .tell e'' :: calls) b) :
    TracesAt ⟨a, r, t, o⟩ (parts.pipeline.traced.frameDone total stats g' labels >>= f)
      (parts.pipeline.frameDone total stats g' labels >>= g) R := by
  simp only [Pipeline.frameDone, bind_assoc]
  exact tracesAt_observe_bind fun o =>
    tracesAt_observe_bind fun o => tracesAt_observe_bind fun o => h o _ _ _

end Audience

/-- **One round** lets an item fare as it should. -/
theorem tracesAt_round (total : Nat) (stats : RunStats) (item : StateM α (Except ε Frame))
    (s : PartStates α ρ τ β) :
    TracesAt s
      (parts.pipeline.traced.round total stats
        (noted (inSource item) fun outcome => .next (some outcome)))
      (parts.pipeline.round total stats (inSource item)) (parts.Passing item stats s) := by
  obtain ⟨a, r, t, o⟩ := s
  rcases read : item a with ⟨found, a'⟩
  refine tracesAt_now_bind fun start o => TracesAt.noted_bind (inSource_run read) ?_
  cases found with
  | error cause => exact TracesAt.done (.unread cause read rfl rfl rfl)
  | ok f =>
      refine tracesAt_stageDone_bind fun o e => tracesAt_now_bind fun start o => ?_
      rcases process : parts.processor.process f r with ⟨processed, r'⟩
      rcases count : parts.processor.labelCount r' with ⟨labels, r''⟩
      have treated : parts.treat f r = ((processed, labels), r'') := by
        rw [treat, bind_run process, bind_run count]
        rfl
      refine TracesAt.noted_bind (inProcessor_run process) ?_
      cases agreed : processed.outcome with
      | error cause =>
          refine TracesAt.done
            (.unprocessed f processed labels cause read treated agreed rfl ?_ rfl)
          simp [refusals, List.filterMap_cons, Call.refused?, agreed]
      | ok goOn =>
          have none_refused (others : List (Call ε π)) :
              refusals (.next (some (.ok f)) :: .tell e :: .process f processed :: others) =
                refusals others := by
            simp [refusals, List.filterMap_cons, Call.refused?, agreed]
          refine tracesAt_stageDone_bind fun o e => tracesAt_now_bind fun start o => ?_
          rcases told : parts.sink.write processed.frame t with ⟨verdict, t'⟩
          refine TracesAt.noted_bind (inSink_run told) ?_
          cases verdict with
          | error cause =>
              refine TracesAt.done ?_
              exact .unwritten f processed labels goOn cause read treated agreed told rfl
                (none_refused _) rfl
          | ok _ =>
              refine tracesAt_stageDone_bind fun o e =>
                TracesAt.noted_bind (inProcessor_run count) ?_
              refine tracesAt_frameDone_bind fun o e e' e'' => ?_
              cases goOn with
              | true =>
                  exact TracesAt.done (.taken f processed labels true read treated agreed told rfl
                    (none_refused _))
              | false =>
                  refine tracesAt_observe_bind fun o => TracesAt.done ?_
                  exact .taken f processed labels false read treated agreed told rfl
                    (none_refused _)

/-! ### What all rounds do -/

/-- What is to be said of the calls of rounds and of what they come to, given the counts before
them, the passages that are to be made, and what it takes to come to any counts at all. -/
structure Accounts (stats : RunStats) (handed : List (Passage ε π)) (smooth : Prop)
    (calls : List (Call ε π)) (outcome : Except (RunFault ε π) RunStats) : Prop where
  written : writtenFrames calls = handed.map fun passage => passage.processed.frame
  refused :
    ∀ index cause, outcome = .error (.processing index cause) ↔ (index, cause) ∈ refusals calls
  finished : (∃ after, outcome = .ok after) ↔ smooth
  counted : ∀ after, outcome = .ok after →
    after.frames = stats.frames + handed.length ∧
    after.regions =
      stats.regions + (handed.map fun passage => passage.processed.frame.regions.length).sum ∧
    after.labels = stats.labels + (handed.map Passage.labels).sum ∧
    (after.stoppedEarly = true ↔ ∃ last ∈ handed.getLast?, last.processed.outcome = .ok false)

namespace Accounts

variable {stats : RunStats} {handed : List (Passage ε π)} {smooth : Prop}
  {calls others : List (Call ε π)}
  {outcome : Except (RunFault ε π) RunStats}

/-- A transfer that fails is the end of it. -/
theorem of_transfer (cause : ε)
    (is_written : writtenFrames calls = handed.map fun passage => passage.processed.frame)
    (none_refused : refusals calls = []) (not_smooth : ¬smooth) :
    Accounts stats handed smooth calls (.error (.transfer cause)) where
  written := is_written
  refused index cause := by simp [none_refused]
  finished := by simp [not_smooth]
  counted after h := nomatch h

/-- So is a frame that cannot be processed. -/
theorem of_refused (index : UInt64) (cause : π) (none_written : writtenFrames calls = [])
    (one_refused : refusals calls = [(index, cause)]) (not_smooth : ¬smooth) :
    Accounts stats ([] : List (Passage ε π)) smooth calls (.error (.processing index cause)) where
  written := none_written
  refused index' cause' := by simp [one_refused, eq_comm]
  finished := by simp [not_smooth]
  counted after h := nomatch h

/-- Without anything more to read the counts stay. -/
theorem of_exhausted (fresh : stats.stoppedEarly = false) :
    Accounts stats ([] : List (Passage ε π)) (Smooth ([] : List (Passage ε π)) 0)
      ([.next none] : List (Call ε π)) (.ok stats) where
  written := rfl
  refused index cause := by simp [refusals, Call.refused?]
  finished := by simp [Smooth.nil]
  counted after h := by
    cases h
    simp [fresh]

variable {processed : Processed π} {labels items : Nat}

/-- The frame that the processor stops at counts. -/
theorem of_stopped (agreed : processed.outcome = .ok false)
    (one_written : writtenFrames calls = [processed.frame]) (none_refused : refusals calls = []) :
    Accounts stats [(⟨processed, labels, .ok ()⟩ : Passage ε π)]
      (Smooth [(⟨processed, labels, .ok ()⟩ : Passage ε π)] items) calls
      (.ok { stats.add processed.frame labels with stoppedEarly := true }) where
  written := one_written
  refused index cause := by simp [none_refused]
  finished := by simp [Smooth.of_stopped agreed]
  counted after h := by
    cases h
    simp [RunStats.add, agreed]

/-- A frame that the sink takes counts, and then the others do. -/
theorem cons (agreed : processed.outcome = .ok true)
    (one_written : writtenFrames calls = [processed.frame]) (none_refused : refusals calls = [])
    (rest : Accounts (stats.add processed.frame labels) handed (Smooth handed items) others
      outcome) :
    Accounts stats ((⟨processed, labels, .ok ()⟩ : Passage ε π) :: handed)
      (Smooth ((⟨processed, labels, .ok ()⟩ : Passage ε π) :: handed) (items + 1)) (calls ++ others)
      outcome where
  written := by rw [writtenFrames_append, one_written, rest.written]; rfl
  refused index cause := by rw [refusals_append, none_refused, List.nil_append, rest.refused]
  finished := by rw [rest.finished, Smooth.cons_iff agreed]
  counted after h := by
    obtain ⟨frames, regions, all_labels, stopped⟩ := rest.counted after h
    refine ⟨?_, ?_, ?_, stopped.trans ?_⟩
    · rw [frames, RunStats.add, List.length_cons, Nat.add_assoc, Nat.add_comm 1]
    · rw [regions, RunStats.add, List.map_cons, List.sum_cons, Nat.add_assoc]
    · rw [all_labels, RunStats.add, List.map_cons, List.sum_cons, Nat.add_assoc]
    · -- The frame did not stop the run, so it does not matter whether it is the last one.
      cases handed with
      | nil => simp [agreed]
      | cons next handed => simp [List.getLast?_cons_cons]

/-- Closing adds nothing to hand over and nothing to process, but it may fail. -/
theorem verdict (accounts : Accounts stats handed smooth calls outcome) (closed : Except ε Unit)
    (same_written : writtenFrames others = writtenFrames calls)
    (same_refused : refusals others = refusals calls) :
    Accounts stats handed (smooth ∧ closed = .ok ()) others (Pipeline.verdict outcome closed) := by
  have wrote := same_written.trans accounts.written
  have finished := accounts.finished
  cases outcome with
  | error fault =>
      have not_smooth : ¬smooth := fun h => by
        obtain ⟨after, eq⟩ := finished.2 h
        cases eq
      refine ⟨wrote, fun index cause => ?_, by simp [Pipeline.verdict, not_smooth],
        fun _ h => nomatch h⟩
      rw [same_refused, Pipeline.verdict, accounts.refused]
  | ok stats' =>
      have is_smooth : smooth := finished.1 ⟨stats', rfl⟩
      have none_refused : refusals calls = [] :=
        List.eq_nil_iff_forall_not_mem.2 fun (index, cause) mem =>
          nomatch (accounts.refused index cause).2 mem
      cases closed with
      | error cause => exact of_transfer cause wrote (same_refused.trans none_refused) (by simp)
      | ok _ =>
          refine ⟨wrote, fun index cause => ?_, by simp [Pipeline.verdict, is_smooth],
            accounts.counted⟩
          rw [same_refused]
          exact accounts.refused index cause

end Accounts

variable {total : Nat}

/-- **All rounds** hand over what is to be handed over, by induction on the items that are left. -/
theorem tracesAt_rounds (finish : StateM α Unit) (items : List (StateM α (Except ε Frame)))
    (stats : RunStats) (s : PartStates α ρ τ β) (fresh : stats.stoppedEarly = false) :
    let reads := (items.mapM id s.source).1
    let handed := parts.handed reads s.processor s.sink
    TracesAt s
      (parts.pipeline.traced.rounds total (noted (inSource finish) fun _ => .next none) stats
        ((items.map inSource).map fun item => noted item fun outcome => .next (some outcome)))
      (parts.pipeline.rounds total (inSource finish) stats (items.map inSource))
      fun calls outcome s' =>
        Accounts stats handed (Smooth handed reads.length) calls outcome ∧
          s'.sink = parts.sinkAfter handed s.sink := by
  induction items generalizing stats s with
  | nil => exact TracesAt.noted_bind rfl (TracesAt.done ⟨.of_exhausted fresh, rfl⟩)
  | cons item items ih =>
      refine TracesAt.bind (tracesAt_round total stats item s) fun calls ended s' passing => ?_
      rw [fst_mapM_cons, id]
      cases passing with
      | unread cause read none_written none_refused kept =>
          rw [read, handed_of_unread]
          refine TracesAt.done ⟨?_, kept⟩
          rw [List.append_nil]
          exact .of_transfer cause none_written none_refused Smooth.not_nil
      | unprocessed f processed labels cause read treated refusal none_written one_refused kept =>
          rw [read, handed_of_refused treated refusal]
          refine TracesAt.done ⟨?_, kept⟩
          rw [List.append_nil]
          exact .of_refused _ cause none_written one_refused Smooth.not_nil
      | unwritten f processed labels goOn cause read treated agreed told one_written none_refused
        brought =>
          have last : Passage.isLast (⟨processed, labels, .error cause⟩ : Passage ε π) = true := by
            cases goOn <;> simp [Passage.isLast, agreed]
          rw [read, handed_of_accepted treated agreed told, if_pos last, sinkAfter_cons told]
          refine TracesAt.done ⟨?_, brought⟩
          rw [List.append_nil]
          exact .of_transfer cause one_written none_refused Smooth.not_refused
      | taken f processed labels goOn read treated agreed told one_written none_refused =>
          rw [read, handed_of_accepted treated agreed told]
          cases goOn with
          | false =>
              have last : Passage.isLast (⟨processed, labels, .ok ()⟩ : Passage ε π) = true := by
                simp [Passage.isLast, agreed]
              rw [if_pos last, sinkAfter_cons told]
              simp only [Bool.false_eq_true, if_false, if_true]
              refine TracesAt.done ⟨?_, rfl⟩
              rw [List.append_nil]
              exact .of_stopped agreed one_written none_refused
          | true =>
              have more : ¬Passage.isLast (⟨processed, labels, .ok ()⟩ : Passage ε π) = true := by
                simp [Passage.isLast, agreed]
              rw [if_neg more, sinkAfter_cons told]
              have still_fresh : (stats.add processed.frame labels).stoppedEarly = false := fresh
              simp only [if_true, still_fresh, Bool.false_eq_true, if_false]
              intro before
              obtain ⟨others, runs, rest, sunk⟩ :=
                ih (stats.add processed.frame labels) _ still_fresh before
              exact ⟨others, runs, rest.cons agreed one_written none_refused, sunk⟩

/-- **A run** accounts for what is to be handed over. -/
theorem tracesAt_run (path : String) (s : PartStates α ρ τ β) {connected : α}
    (opens : parts.source.connect path s.source = (.ok total, connected)) :
    let reads := parts.reads connected
    let handed := parts.handed reads s.processor s.sink
    TracesAt s (parts.pipeline.traced.run path) (parts.pipeline.run path) fun calls outcome _ =>
      Accounts {} handed
        (Smooth handed reads.length ∧ (parts.sink.close (parts.sinkAfter handed s.sink)).1 = .ok ())
        calls outcome := by
  intro reads handed
  obtain ⟨a, r, t, o⟩ := s
  refine TracesAt.noted_bind (inSource_run opens) (tracesAt_observe_bind fun o => ?_)
  simp only [Pipeline.traced, bind_assoc, pure_bind]
  refine TracesAt.noted_bind rfl ?_
  refine TracesAt.bind (tracesAt_rounds _ _ {} _ rfl) fun calls outcome s' ⟨accounts, sunk⟩ => ?_
  refine TracesAt.noted_bind rfl ?_
  rcases closing : parts.pipeline.sink.close (parts.pipeline.source.close s').2 with ⟨closed, s''⟩
  have told : (parts.sink.close (parts.sinkAfter handed t)).1 = closed :=
    (congrArg (fun t => (parts.sink.close t).1) sunk.symm).trans (congrArg Prod.fst closing)
  rw [told]
  refine TracesAt.noted_bind closing ?_
  -- Nothing else but the rounds brings frames to the processor and the sink.
  have all (others : List (Call ε π)) (none_written : writtenFrames others = [])
      (none_refused : refusals others = []) :
      Accounts {} handed (Smooth handed reads.length ∧ closed = .ok ())
        (.connect path (.ok total) :: .tell
          (.info s!"Labeling {total} frames from {path}") :: .frames ::
          (calls ++ others)) (Pipeline.verdict outcome closed) :=
    accounts.verdict closed
      (by rw [← List.append_nil (writtenFrames calls), ← none_written, ← writtenFrames_append]; rfl)
      (by rw [← List.append_nil (refusals calls), ← none_refused, ← refusals_append]; rfl)
  cases ended : Pipeline.verdict outcome closed with
  | error fault =>
      refine TracesAt.done ?_
      rw [← ended]
      exact all [.closeSource, .closeSink closed] rfl rfl
  | ok stats =>
      refine tracesAt_observe_bind fun o => TracesAt.done ?_
      rw [← ended]
      exact all [.closeSource, .closeSink closed, .tell .finished] rfl rfl

/-- A run over parts that are strangers to each other hands over what they are to hand over: the
processed forms, in order, of the frames before the first item that cannot be read and the first
frame that cannot be processed, through the first that the processor stops at or the sink refuses.
It comes to counts if there was no fault on the way to the end or to the stop and the sink can be
closed. Those counts are of the frames that were handed over, and the run was stopped early if the
processor stopped at the last of them. A run fails with a processor's fault, and with the index of
its frame, if a processor had one. -/
theorem run_hands_over (parts : Parts α ρ τ β ε π) (path : String) (s : PartStates α ρ τ β)
    {total : Nat} {connected : α}
    (opens : parts.source.connect path s.source = (.ok total, connected)) :
    let run := parts.pipeline.run path s
    let reads := parts.reads connected
    let handed := parts.handed reads s.processor s.sink
    ∃ calls, parts.pipeline.traced.run path [] s = ((run.1, calls), run.2) ∧
      writtenFrames calls = (handed.map fun passage => passage.processed.frame) ∧
      ((∃ stats, run.1 = .ok stats) ↔
        Smooth handed reads.length ∧
        (parts.sink.close (parts.sinkAfter handed s.sink)).1 = .ok ()) ∧
      (∀ stats, run.1 = .ok stats →
        stats.frames = (writtenFrames calls).length ∧
        stats.regions = ((writtenFrames calls).map fun f => f.regions.length).sum ∧
        stats.labels = (handed.map Passage.labels).sum ∧
        (stats.stoppedEarly = true ↔
          ∃ last ∈ handed.getLast?, last.processed.outcome = .ok false)) ∧
      ∀ index cause, run.1 = .error (.processing index cause) ↔
        ∃ f processed, .process f processed ∈ calls ∧ processed.outcome = .error cause ∧
          processed.frame.index = index := by
  intro run reads handed
  obtain ⟨calls, runs, accounts⟩ := tracesAt_run path s opens []
  refine ⟨calls, by simpa only [List.nil_append] using runs, accounts.written, accounts.finished,
    fun stats ended => ?_, fun index cause => ?_⟩
  · obtain ⟨frames, regions, labels, stopped⟩ := accounts.counted stats ended
    rw [accounts.written, List.length_map, List.map_map]
    exact ⟨by simpa using frames, by simpa [Function.comp_def] using regions, by simpa using labels,
      stopped⟩
  · rw [accounts.refused, mem_refusals]

/-- Parts whose source has two frames and then nothing that can be read, and whose processor
takes the last region off each frame, tells its own index as the number of labels, and stops at
the second frame. -/
def stopping : Parts Unit UInt64 Unit Unit String String where
  source := {
    connect := fun _ => pure (.ok 3)
    frames :=
      pure ⟨[pure (.ok ⟨0, [⟨0, 0, 4, 4, []⟩, ⟨4, 4, 4, 4, []⟩]⟩),
        pure (.ok ⟨1, [⟨0, 0, 4, 4, []⟩]⟩), pure (.error "torn")], pure ()⟩
    close := pure () }
  processor := {
    process := fun f _ => (⟨{ f with regions := f.regions.dropLast }, .ok (f.index = 0)⟩, f.index)
    labelCount := fun n => (n.toNat, n) }
  sink := { write := fun _ => pure (.ok ()), close := pure (.ok ()) }
  observe := fun _ => pure ()
  now := pure 0

theorem run_hands_over_of_stopping :
    let run := stopping.pipeline.run "in" ⟨(), 7, (), ()⟩
    stopping.source.connect "in" () = (.ok 3, ()) ∧
    run.1.toOption = some { frames := 2, regions := 1, labels := 1, stoppedEarly := true } ∧
    ∃ calls, stopping.pipeline.traced.run "in" [] ⟨(), 7, (), ()⟩ = ((run.1, calls), run.2) ∧
      writtenFrames calls = [⟨0, [⟨0, 0, 4, 4, []⟩]⟩, ⟨1, []⟩] := by
  refine ⟨rfl, by decide +kernel, ?_⟩
  obtain ⟨calls, runs, frames, -⟩ := run_hands_over stopping "in" ⟨(), 7, (), ()⟩ rfl
  exact ⟨calls, runs, frames.trans (by decide +kernel)⟩

end Parts

end FaceAnnotator
