import FaceAnnotator.Pipeline.Parts
import FaceAnnotator.Proofs.Pipeline.Handover
import FaceAnnotator.Proofs.Pipeline.Invariant
import FaceAnnotator.Proofs.Pipeline.Protocol
import FaceAnnotator.Proofs.Telemetry.ByName
/-!
# FaceAnnotator.Proofs.Telemetry.Accounting

**A run is counted twice, and both counts agree.**

A run counts its frames itself (`RunStats`), and telemetry counts what it is told of each of them.
The two are brought together by the calls of the run: `Follows` says that telemetry has taken note
of all that the calls told it, and `Entries` how many values the calls give to each name. A round
that writes its frame gives one to every name. A round that fails gives one to the stages that it
had behind it, so the stage that a run failed at can be told from the counts.
-/

namespace FaceAnnotator

open Numeric

variable {σ ε π α : Type}

/-! ### Telemetry as the observer of a run -/

/-- An operation of something that knows nothing of the telemetry. -/
def besideTelemetry (x : StateM σ α) : StateM (σ × Telemetry) α :=
  within Prod.fst (fun s state => (s, state.2)) x

/-- A pipeline with telemetry in the place of its observer, given how many milliseconds have passed
and where records go. The other parts know nothing of the telemetry. -/
def Pipeline.withTelemetry (p : Pipeline (StateM σ) ε π) (elapsed : StateM σ Double)
    (log : Record → StateM σ Unit) :
    Pipeline (StateM (σ × Telemetry)) ε π where
  source := {
    connect := fun path => besideTelemetry (p.source.connect path)
    frames := do
      let feed ← besideTelemetry p.source.frames
      pure ⟨feed.items.map besideTelemetry, besideTelemetry feed.finish⟩
    close := besideTelemetry p.source.close }
  processor := {
    process := fun f => besideTelemetry (p.processor.process f)
    labelCount := besideTelemetry p.processor.labelCount }
  sink := {
    write := fun f => besideTelemetry (p.sink.write f)
    close := besideTelemetry p.sink.close }
  observe := Telemetry.observer (.ofState Prod.snd fun t state => (state.1, t))
    (besideTelemetry elapsed) fun record => besideTelemetry (log record)
  now := besideTelemetry p.now

/-- What a call tells the observer. -/
def Call.told? : Call ε π → Option Event
  | .tell e => some e
  | _ => none

/-- What calls tell the observer. -/
def toldEvents (calls : List (Call ε π)) : List Event := calls.filterMap Call.told?

theorem toldEvents_append (calls others : List (Call ε π)) :
    toldEvents (calls ++ others) = toldEvents calls ++ toldEvents others :=
  List.filterMap_append

/-- Telemetry has taken note of all that it was told. -/
def Follows (start : Telemetry) (calls : List (Call ε π)) (state : σ × Telemetry) : Prop :=
  ∃ events, events.map Prod.snd = toldEvents calls ∧ state.2 = start.observeAll events

namespace Follows

variable {start : Telemetry} {log : Record → StateM σ Unit} {elapsed : StateM σ Double}

theorem nil (s : σ) : Follows start ([] : List (Call ε π)) (s, start) := ⟨[], rfl, rfl⟩

/-- A call that tells nothing, and that the telemetry is not touched by. -/
theorem untold {calls : List (Call ε π)} (call : Call ε π) {state state' : σ × Telemetry}
    (h : Follows start calls state) (silent : call.told? = none) (kept : state'.2 = state.2) :
    Follows start (calls ++ [call]) state' := by
  obtain ⟨events, told, eq⟩ := h
  refine ⟨events, ?_, kept.trans eq⟩
  rw [toldEvents_append, told, toldEvents, toldEvents, List.filterMap_cons, silent,
    List.filterMap_nil, List.append_nil]

theorem told {calls : List (Call ε π)} {e : Event} (passed : Double) {state state' : σ × Telemetry}
    (h : Follows start calls state) (noticed : state'.2 = (state.2.observe passed e).1) :
    Follows start (calls ++ [.tell e]) state' := by
  obtain ⟨events, told, eq⟩ := h
  refine ⟨events ++ [(passed, e)], ?_, ?_⟩
  · rw [toldEvents_append, List.map_append, told]
    rfl
  · rw [noticed, eq, Telemetry.observeAll, Telemetry.observeAll, List.foldl_append]
    rfl

theorem triple_beside {x : StateM σ α} {call : α → Call ε π} (silent : ∀ a, (call a).told? = none) :
    Triple (Follows start) (noted (besideTelemetry x) call) fun _ => Follows start :=
  fun _ _ h => h.untold _ (silent _) rfl

/-- Logging does not touch the telemetry. -/
theorem snd_logAll (records : List Record) (state : σ × Telemetry) :
    (logAll (fun record => besideTelemetry (log record)) records state).2.2 = state.2 := by
  induction records generalizing state with
  | nil => rfl
  | cons record records ih => exact (ih _).trans rfl

theorem triple_observe (p : Pipeline (StateM σ) ε π) (e : Event) :
    Triple (Follows (ε := ε) (π := π) start) ((p.withTelemetry elapsed log).traced.observe e)
      fun _ => Follows start := by
  intro calls state h
  exact h.told (elapsed state.1).1 (snd_logAll _ _)

/-- Telemetry follows every operation of a run, and so it follows the run. -/
theorem preserves (p : Pipeline (StateM σ) ε π) (elapsed : StateM σ Double)
    (log : Record → StateM σ Unit) (path : String) :
    (p.withTelemetry elapsed log).traced.Preserves path (Follows start) True where
  connect := triple_beside fun _ => rfl
  frames := by
    intro calls state h
    refine ⟨h.untold .frames rfl rfl, ?_, triple_beside fun _ => rfl⟩
    intro item mem
    obtain ⟨_, among, rfl⟩ := List.mem_map.1 mem
    obtain ⟨x, -, rfl⟩ := List.mem_map.1 among
    exact fun calls state h => ⟨triple_beside (fun _ => rfl) calls state h, fun _ => trivial⟩
  closeSource := triple_beside fun _ => rfl
  process _ := triple_beside fun _ => rfl
  labelCount := triple_beside fun _ => rfl
  write _ _ := triple_beside fun _ => rfl
  closeSink := triple_beside fun _ => rfl
  observe := triple_observe p
  now := fun _ _ h => h

end Follows

/-! ### The calls of a run whose source can be connected -/

/-- The calls that end a run, given what its rounds came to. -/
def closingCalls (ended : Except (RunFault ε π) RunStats) (closed : Except ε Unit) :
    List (Call ε π) :=
  match Pipeline.verdict ended closed with
  | .error _ => [.closeSource, .closeSink closed]
  | .ok _ => [.closeSource, .closeSink closed, .tell .finished]

theorem Pipeline.tracesAt_run (p : Pipeline (StateM σ) ε π) (path : String) {s connected : σ}
    {total : Nat} (opens : p.source.connect path s = (.ok total, connected)) :
    TracesAt s (p.traced.run path) (p.run path) fun calls outcome _ =>
      ∃ rounds ended closed, Rounds total {} rounds ended ∧ outcome = verdict ended closed ∧
        calls = openingCalls path total ++ rounds ++ closingCalls ended closed := by
  refine TracesAt.noted_bind opens (TracesAt.noted_bind rfl ?_)
  simp only [traced, bind_assoc, pure_bind]
  refine TracesAt.noted_bind rfl (TracesAt.bind ((p.traces_rounds total _ {} _ rfl).to_at _) ?_)
  intro rounds ended s' kept
  refine TracesAt.noted_bind rfl (TracesAt.noted_bind rfl ?_)
  generalize (p.sink.close (p.source.close s').2).1 = closed
  cases came : verdict ended closed with
  | error fault =>
      refine TracesAt.done ⟨rounds, ended, closed, kept, came.symm, ?_⟩
      simp [openingCalls, closingCalls, came]
  | ok stats =>
      refine TracesAt.noted_bind rfl (TracesAt.done ⟨rounds, ended, closed, kept, came.symm, ?_⟩)
      simp [openingCalls, closingCalls, came]

/-! ### Where a run fails -/

/-- Where a run may fail once its source is connected. -/
inductive Stage where
  /-- There is no frame to be had. -/
  | reading
  /-- The processor refuses a frame. -/
  | processing
  /-- The sink refuses a frame. -/
  | writing
  /-- The sink cannot be closed. -/
  | closing
deriving DecidableEq, Repr

/-- The fault of a call that failed, and where it belongs. -/
def Call.fault? : Call ε π → Option (Stage × RunFault ε π)
  | .next (some (.error cause)) => some (.reading, .transfer cause)
  | .process _ processed =>
    match processed.outcome with
    | .error cause => some (.processing, .processing processed.frame.index cause)
    | .ok _ => none
  | .write _ (.error cause) => some (.writing, .transfer cause)
  | .closeSink (.error cause) => some (.closing, .transfer cause)
  | _ => none

/-- The first call that failed, if one did. -/
def failedAt? (calls : List (Call ε π)) : Option (Stage × RunFault ε π) :=
  calls.findSome? Call.fault?

theorem failedAt?_append (calls others : List (Call ε π)) :
    failedAt? (calls ++ others) = (failedAt? calls).or (failedAt? others) :=
  List.findSome?_append

/-! ### What calls give to the names -/

/-- The values that calls give to a name on a channel. -/
def Telemetry.Channel.valuesIn (c : Channel) (name : String) (calls : List (Call ε π)) :
    List Double :=
  valuesOf name ((toldEvents calls).filterMap c.sample?)

theorem Telemetry.Channel.valuesIn_append (c : Channel) (name : String)
    (calls others : List (Call ε π)) :
    c.valuesIn name (calls ++ others) = c.valuesIn name calls ++ c.valuesIn name others := by
  simp only [valuesIn, toldEvents_append, List.filterMap_append, valuesOf]

open Telemetry (Channel)

/-- How many values calls give to the three stages, and which counts of regions and labels to
the two metrics. -/
structure Entries (calls : List (Call ε π)) (read label write : Nat) (counts : List (Nat × Nat)) :
    Prop where
  read : (Channel.timings.valuesIn "read" calls).length = read
  label : (Channel.timings.valuesIn "label" calls).length = label
  write : (Channel.timings.valuesIn "write" calls).length = write
  regions : Channel.metrics.valuesIn "regions" calls = counts.map fun count => Binary.ofNat count.1
  labels : Channel.metrics.valuesIn "labels" calls = counts.map fun count => Binary.ofNat count.2

namespace Entries

variable {calls others : List (Call ε π)} {read label write read' label' write' : Nat}
  {counts more : List (Nat × Nat)}

theorem append (h : Entries calls read label write counts)
    (h' : Entries others read' label' write' more) :
    Entries (calls ++ others) (read + read') (label + label') (write + write')
      (counts ++ more) where
  read := by rw [Channel.valuesIn_append, List.length_append, h.read, h'.read]
  label := by rw [Channel.valuesIn_append, List.length_append, h.label, h'.label]
  write := by rw [Channel.valuesIn_append, List.length_append, h.write, h'.write]
  regions := by rw [Channel.valuesIn_append, h.regions, h'.regions, List.map_append]
  labels := by rw [Channel.valuesIn_append, h.labels, h'.labels, List.map_append]

/-- Before and behind the rounds no name gets anything. -/
theorem around (h : Entries calls read label write counts) (path : String) (total : Nat)
    (ended : Except (RunFault ε π) RunStats) (closed : Except ε Unit) :
    Entries (openingCalls path total ++ calls ++ closingCalls ended closed) read label write
      counts := by
  have opening : Entries (openingCalls path total : List (Call ε π)) 0 0 0 [] :=
    ⟨rfl, rfl, rfl, rfl, rfl⟩
  have closing : Entries (closingCalls ended closed) 0 0 0 [] := by
    unfold closingCalls
    split <;> exact ⟨rfl, rfl, rfl, rfl, rfl⟩
  simpa using (opening.append h).append closing

end Entries

/-! ### One round -/

/-- How many times a round that fails has told how long reading took. -/
def Stage.read : Stage → Nat
  | .processing | .writing => 1
  | .reading | .closing => 0

/-- How many times a round that fails has told how long labeling took. -/
def Stage.label : Stage → Nat
  | .writing => 1
  | .reading | .processing | .closing => 0

/-- The answers about how many labels a frame got. -/
def Call.labels? : Call ε π → Option Nat
  | .labelCount labels => some labels
  | _ => none

/-- How many regions each frame has that calls bring to the sink. -/
def regionCounts (calls : List (Call ε π)) : List Nat :=
  (writtenFrames calls).map fun f => f.regions.length

/-- How many labels each frame got, as far as that was asked. -/
def labelCounts (calls : List (Call ε π)) : List Nat := calls.filterMap Call.labels?

/-- The calls of rounds that all wrote their frames, from some counts of the run to others. -/
structure Counted (stats : RunStats) (calls : List (Call ε π)) (counts : List (Nat × Nat))
    (after : RunStats) : Prop where
  entries : Entries calls counts.length counts.length counts.length counts
  unfailed : failedAt? calls = none
  eachRegions : regionCounts calls = counts.map Prod.fst
  eachLabels : labelCounts calls = counts.map Prod.snd
  frames : after.frames = stats.frames + counts.length
  regions : after.regions = stats.regions + (counts.map Prod.fst).sum
  labels : after.labels = stats.labels + (counts.map Prod.snd).sum

/-- The calls of rounds of which the last one failed. -/
structure BrokenOff (calls : List (Call ε π)) (counts : List (Nat × Nat)) (stage : Stage)
    (fault : RunFault ε π) : Prop where
  entries :
    Entries calls (counts.length + stage.read) (counts.length + stage.label) counts.length counts
  failed : failedAt? calls = some (stage, fault)

variable {total : Nat} {stats after : RunStats} {calls others : List (Call ε π)}
  {fault : RunFault ε π}
  {counts : List (Nat × Nat)} {stage : Stage}

/-- A round that writes its frame gives every name one value. -/
theorem Round.counted {goOn : Bool} (h : Round total stats calls (.ok (after, goOn))) :
    ∃ count, Counted stats calls [count] after := by
  cases h with
  | written f processed readTime labelTime writeTime labels accepted =>
      refine ⟨(processed.frame.regions.length, labels), ⟨rfl, rfl, rfl, rfl, rfl⟩, ?_, rfl, rfl,
        rfl, rfl, rfl⟩
      simp [failedAt?, writingCalls, processingCalls, countingCalls, Call.fault?, accepted]
  | stopped f processed readTime labelTime writeTime labels accepted =>
      refine ⟨(processed.frame.regions.length, labels), ⟨rfl, rfl, rfl, rfl, rfl⟩, ?_, rfl, rfl,
        rfl, rfl, rfl⟩
      simp [failedAt?, writingCalls, processingCalls, countingCalls, Call.fault?, accepted]

/-- A round that fails gives a value to the stages behind it. -/
theorem Round.brokenOff (h : Round total stats calls (.error fault)) :
    ∃ stage, BrokenOff calls [] stage fault := by
  cases h with
  | unread cause => exact ⟨.reading, ⟨rfl, rfl, rfl, rfl, rfl⟩, rfl⟩
  | unprocessed f processed readTime cause refused =>
      refine ⟨.processing, ⟨rfl, rfl, rfl, rfl, rfl⟩, ?_⟩
      simp [failedAt?, processingCalls, List.findSome?_cons, Call.fault?, refused]
  | unwritten f processed readTime labelTime goOn cause accepted =>
      refine ⟨.writing, ⟨rfl, rfl, rfl, rfl, rfl⟩, ?_⟩
      simp [failedAt?, writingCalls, processingCalls, List.findSome?_cons, Call.fault?, accepted]

/-! ### All rounds -/

theorem Counted.append {before : List (Nat × Nat)} {later : RunStats}
    (h : Counted stats calls before after)
    (h' : Counted after others counts later) :
    Counted stats (calls ++ others) (before ++ counts) later where
  entries := by simpa using h.entries.append h'.entries
  unfailed := by rw [failedAt?_append, h.unfailed, h'.unfailed, Option.none_or]
  eachRegions := by
    rw [List.map_append, ← h.eachRegions, ← h'.eachRegions, regionCounts, writtenFrames_append,
      List.map_append]
    rfl
  eachLabels := by
    rw [List.map_append, ← h.eachLabels, ← h'.eachLabels, labelCounts, List.filterMap_append]
    rfl
  frames := by rw [h'.frames, h.frames, List.length_append, Nat.add_assoc]
  regions := by rw [h'.regions, h.regions, List.map_append, List.sum_append, Nat.add_assoc]
  labels := by rw [h'.labels, h.labels, List.map_append, List.sum_append, Nat.add_assoc]

theorem Counted.brokenOff {before : List (Nat × Nat)} (h : Counted stats calls before after)
    (h' : BrokenOff others counts stage fault) :
    BrokenOff (calls ++ others) (before ++ counts) stage fault where
  entries := by simpa [Nat.add_assoc] using h.entries.append h'.entries
  failed := by rw [failedAt?_append, h.unfailed, Option.none_or, h'.failed]

/-- What rounds come to in the calls: they are all counted, or the last of them is broken off. -/
def Accounted (stats : RunStats) (calls : List (Call ε π)) (counts : List (Nat × Nat)) :
    Except (RunFault ε π) RunStats → Prop
  | .ok after => Counted stats calls counts after
  | .error fault => ∃ stage, BrokenOff calls counts stage fault

/-- All rounds are accounted for, by induction on the rounds. -/
theorem Rounds.accounted {outcome : Except (RunFault ε π) RunStats}
    (h : Rounds total stats calls outcome) :
    ∃ counts, Accounted stats calls counts outcome := by
  induction h with
  | exhausted stats => exact ⟨[], ⟨rfl, rfl, rfl, rfl, rfl⟩, rfl, rfl, rfl, rfl, rfl, rfl⟩
  | failed last => exact ⟨[], last.brokenOff⟩
  | stopped last =>
      obtain ⟨count, counted⟩ := last.counted
      -- That the run was stopped early does not show in the counts.
      exact ⟨[count], { counted with }⟩
  | @another stats after calls others outcome first rest ih =>
      obtain ⟨count, counted⟩ := first.counted
      obtain ⟨counts, accounted⟩ := ih
      refine ⟨[count] ++ counts, ?_⟩
      cases outcome with
      | ok after => exact counted.append accounted
      | error fault =>
          obtain ⟨stage, brokenOff⟩ := accounted
          exact ⟨stage, counted.brokenOff brokenOff⟩

/-! ### The whole run -/

/-- Before and behind the rounds no call of a run fails, but for closing the sink. -/
theorem failedAt?_around (path : String) (ended : Except (RunFault ε π) RunStats)
    (closed : Except ε Unit) :
    failedAt? (openingCalls path total ++ calls ++ closingCalls ended closed) =
      (failedAt? calls).or (failedAt? [.closeSink closed]) := by
  have opening : failedAt? (openingCalls path total : List (Call ε π)) = none := rfl
  have closing : failedAt? (closingCalls ended closed) = failedAt? [.closeSink closed] := by
    unfold closingCalls
    split <;> cases closed <;> rfl
  rw [failedAt?_append, failedAt?_append, opening, closing, Option.none_or]

theorem regionCounts_around (path : String) (ended : Except (RunFault ε π) RunStats)
    (closed : Except ε Unit) :
    regionCounts (openingCalls path total ++ calls ++ closingCalls ended closed) =
      regionCounts calls := by
  have closing : writtenFrames (closingCalls ended closed) = [] := by
    unfold closingCalls
    split <;> rfl
  rw [regionCounts, writtenFrames_append, writtenFrames_append, closing, List.append_nil]
  rfl

theorem labelCounts_around (path : String) (ended : Except (RunFault ε π) RunStats)
    (closed : Except ε Unit) :
    labelCounts (openingCalls path total ++ calls ++ closingCalls ended closed) =
      labelCounts calls := by
  have closing : labelCounts (closingCalls ended closed) = [] := by
    unfold closingCalls
    split <;> rfl
  rw [labelCounts, List.filterMap_append, ← labelCounts, ← labelCounts, closing, List.append_nil]
  rfl

/-- Closing adds to what rounds come to that it may fail. -/
theorem Accounted.around {ended : Except (RunFault ε π) RunStats}
    (h : Accounted stats calls counts ended) (path : String) (total : Nat)
    (closed : Except ε Unit) :
    Accounted stats (openingCalls path total ++ calls ++ closingCalls ended closed) counts
      (Pipeline.verdict ended closed) := by
  cases ended with
  | error fault =>
      obtain ⟨stage, brokenOff⟩ := h
      refine ⟨stage, brokenOff.entries.around path total _ closed, ?_⟩
      rw [failedAt?_around, brokenOff.failed, Option.some_or]
  | ok after =>
      have counted : Counted stats calls counts after := h
      have entries := counted.entries.around path total (.ok after) closed
      have failed :
          failedAt? (openingCalls path total ++ calls ++ closingCalls (.ok after) closed) = _ :=
        failedAt?_around path (.ok after) closed
      rw [counted.unfailed, Option.none_or] at failed
      cases closed with
      | error cause => exact ⟨.closing, entries, failed⟩
      | ok _ =>
          refine { counted with
            entries := entries, unfailed := failed, eachRegions := ?_, eachLabels := ?_ }
          · rw [regionCounts_around, counted.eachRegions]
          · rw [labelCounts_around, counted.eachLabels]

/-! ### Both counts of a run -/

namespace Telemetry

/-- How many values a name has on a channel. -/
def count (t : Telemetry) (c : Channel) (name : String) : Nat :=
  ((c.tally t).get? name).elim 0 Series.count

/-- Whole numbers added up one after the other, with a rounding at each step. -/
def runningSum (counts : List Nat) : Double :=
  (counts.map Binary.ofNat).foldl Binary.add (Binary.zero false)

/-- Telemetry tells the same as the counts of a run, given how many regions and labels its frames
had. -/
structure Agrees (t : Telemetry) (stats : RunStats) (regions labels : List Nat) : Prop where
  timings : ∀ name ∈ ["read", "label", "write"],
    (t.timings.get? name).map Series.count = if stats.frames = 0 then none else some stats.frames
  regionSeries :
    t.metrics.get? "regions" =
      if stats.frames = 0 then none else some ⟨runningSum regions, stats.frames⟩
  labelSeries :
    t.metrics.get? "labels" =
      if stats.frames = 0 then none else some ⟨runningSum labels, stats.frames⟩
  lengths : regions.length = stats.frames ∧ labels.length = stats.frames
  sums : stats.regions = regions.sum ∧ stats.labels = labels.sum

/-- Telemetry shows at which stage a run has failed. -/
structure FallsShort (t : Telemetry) (stage : Stage) : Prop where
  ordered :
    t.count .timings "write" ≤ t.count .timings "label" ∧
      t.count .timings "label" ≤ t.count .timings "read"
  metrics :
    t.count .metrics "regions" = t.count .timings "write" ∧
      t.count .metrics "labels" = t.count .timings "write"
  near : t.count .timings "read" - t.count .timings "write" ≤ 1
  processing : t.count .timings "read" = t.count .timings "label" + 1 ↔ stage = .processing
  writing : t.count .timings "label" = t.count .timings "write" + 1 ↔ stage = .writing
  level :
    t.count .timings "read" = t.count .timings "label" ∧
      t.count .timings "label" = t.count .timings "write" ↔
      stage = .reading ∨ stage = .closing

end Telemetry

section Follows

variable {start : Telemetry} {state : σ × Telemetry} (fresh : start.Fresh)
  (follows : Follows start calls state)
include fresh follows

/-- The series of a name are the values that the calls give to it. -/
theorem Follows.get? (c : Channel) (name : String) :
    (c.tally state.2).get? name =
      if c.valuesIn name calls = [] then none
      else some (Series.ofList (c.valuesIn name calls)) := by
  obtain ⟨events, told, eq⟩ := follows
  have samples : c.samples events = (toldEvents calls).filterMap c.sample? := by
    rw [← told, List.filterMap_map]
    rfl
  rw [eq, Telemetry.get?_observeAll fresh, samples]
  rfl

theorem Follows.count (c : Channel) (name : String) :
    state.2.count c name = (c.valuesIn name calls).length := by
  rw [Telemetry.count, follows.get? fresh c name]
  split
  · rename_i none_given
    rw [none_given]
    rfl
  · rw [Series.ofList_eq]
    rfl

theorem Counted.agrees (h : Counted {} calls counts after) :
    state.2.Agrees after (regionCounts calls) (labelCounts calls) := by
  have frames : after.frames = counts.length := by simpa using h.frames
  -- A name has values exactly if there are frames, and then as many.
  have series (c : Channel) (name : String) (all : (c.valuesIn name calls).length = counts.length) :
      (c.tally state.2).get? name =
        if after.frames = 0 then none
        else some ⟨(c.valuesIn name calls).foldl Binary.add (Binary.zero false), after.frames⟩ := by
    rw [follows.get? fresh, Series.ofList_eq, all, frames]
    simp only [← List.length_eq_zero_iff, all]
  have stage {name : String} (all : (Channel.timings.valuesIn name calls).length = counts.length) :
      (state.2.timings.get? name).map Series.count =
        if after.frames = 0 then none else some after.frames := by
    have eq : state.2.timings.get? name = _ := series .timings name all
    rw [eq]
    split <;> rfl
  have regions := series .metrics "regions" (by rw [h.entries.regions, List.length_map])
  have labels := series .metrics "labels" (by rw [h.entries.labels, List.length_map])
  rw [h.eachRegions, h.eachLabels]
  refine ⟨?_, ?_, ?_, ?_, ?_⟩
  · simp only [List.forall_mem_cons, List.not_mem_nil, false_imp_iff, implies_true, and_true]
    exact ⟨stage h.entries.read, stage h.entries.label, stage h.entries.write⟩
  · rw [Telemetry.runningSum, List.map_map]
    exact h.entries.regions ▸ regions
  · rw [Telemetry.runningSum, List.map_map]
    exact h.entries.labels ▸ labels
  · simp [frames]
  · exact ⟨by simpa using h.regions, by simpa using h.labels⟩

theorem BrokenOff.fallsShort (h : BrokenOff calls counts stage fault) :
    state.2.FallsShort stage := by
  have read := (follows.count fresh .timings "read").trans h.entries.read
  have label := (follows.count fresh .timings "label").trans h.entries.label
  have write := (follows.count fresh .timings "write").trans h.entries.write
  have regions := follows.count fresh .metrics "regions"
  have labels := follows.count fresh .metrics "labels"
  rw [h.entries.regions, List.length_map] at regions
  rw [h.entries.labels, List.length_map] at labels
  refine ⟨?_, ?_, ?_, ?_, ?_, ?_⟩ <;> simp only [read, label, write, regions, labels] <;>
    cases stage <;>
    simp [Stage.read, Stage.label]

end Follows

/-- A run whose source can be connected, observed by telemetry to which nothing was told yet,
whatever the other parts do:

* if the run comes to counts, no call has failed; each stage and each metric has as many values as
  there are frames, and none is there without any. The totals of the metrics are the regions and the
  labels of the frames, added up one after the other, and these are the ones that the counts of the
  run are made of;
* if the run fails, it fails with the fault of the first call that failed. Of two stages the earlier
  one has at least as many values as the later one, both metrics have as many as writing, and
  reading has at most one more. What is missing tells the stage: labeling is behind reading if the
  processor failed, writing is behind labeling if the sink refused a frame, and nothing is missing
  if there was no frame to be had or the sink could not be closed. -/
theorem run_counted_twice (p : Pipeline (StateM σ) ε π) (elapsed : StateM σ Double)
    (log : Record → StateM σ Unit) (path : String) {s connected : σ} {start : Telemetry}
    (fresh : start.Fresh) (opens : p.source.connect path s = (.ok total, connected)) :
    let q := p.withTelemetry elapsed log
    let run := q.run path (s, start)
    ∃ calls, q.traced.run path [] (s, start) = ((run.1, calls), run.2) ∧
      (∀ stats, run.1 = .ok stats →
        failedAt? calls = none ∧ run.2.2.Agrees stats (regionCounts calls) (labelCounts calls)) ∧
      ∀ fault, run.1 = .error fault →
        ∃ stage, failedAt? calls = some (stage, fault) ∧ run.2.2.FallsShort stage := by
  intro q run
  have connects : q.source.connect path (s, start) = (.ok total, (connected, start)) := by
    have step : q.source.connect path (s, start) =
        ((p.source.connect path s).1, ((p.source.connect path s).2, start)) := rfl
    rw [step, opens]
  obtain ⟨calls, runs, rounds, ended, closed, kept, outcome, eq⟩ := q.tracesAt_run path connects []
  rw [List.nil_append] at runs
  have follows : Follows start calls run.2 := by
    have all := (Follows.preserves p elapsed log path).run [] (s, start) (.nil s)
    rw [runs] at all
    exact all
  obtain ⟨counts, accounted⟩ := kept.accounted
  have whole := accounted.around path total closed
  rw [← eq, ← outcome] at whole
  refine ⟨calls, runs, fun stats came => ?_, fun fault came => ?_⟩
  · rw [came] at whole
    exact ⟨whole.unfailed, whole.agrees fresh follows⟩
  · rw [came] at whole
    obtain ⟨stage, brokenOff⟩ := whole
    exact ⟨stage, brokenOff.failed, brokenOff.fallsShort fresh follows⟩

/-- Three frames, two labels for each of them, and a sink that takes no second frame. -/
def narrow : Pipeline (StateM Nat) String String where
  source := {
    connect := fun _ => pure (.ok 3)
    frames :=
      pure ⟨[pure (.ok ⟨0, [⟨0, 0, 4, 4, []⟩]⟩), pure (.ok ⟨1, []⟩), pure (.ok ⟨2, []⟩)], pure ()⟩
    close := pure () }
  processor := { process := fun f => pure ⟨f, .ok true⟩, labelCount := pure 2 }
  sink := {
    write := fun _ taken => (if taken = 0 then .ok () else .error "full", taken + 1)
    close := pure (.ok ()) }
  observe := fun _ => pure ()
  now := pure 0

/-- The second frame was read and labeled, and that it was refused shows in the counts. -/
theorem run_counted_twice_of_narrow :
    let q := narrow.withTelemetry (pure (Binary.zero false)) fun _ => pure ()
    let run := q.run "in" (0, .new 3)
    (Telemetry.new 3).Fresh ∧ narrow.source.connect "in" 0 = (.ok 3, 0) ∧
      run.2.2.count .timings "read" = 2 ∧ run.2.2.count .timings "label" = 2 ∧
      run.2.2.count .timings "write" = 1 ∧ run.2.2.count .metrics "labels" = 1 ∧
      ∃ calls, q.traced.run "in" [] (0, .new 3) = ((run.1, calls), run.2) ∧
        failedAt? calls = some (.writing, .transfer "full") := by
  intro q run
  have fresh := Telemetry.fresh_new 3
  obtain ⟨calls, runs, -, failing⟩ :=
    run_counted_twice narrow (pure (Binary.zero false)) (fun _ => pure ()) "in" (s := 0) fresh rfl
  obtain ⟨stage, failed, short⟩ := failing (.transfer "full") (by decide +kernel)
  have label : run.2.2.count .timings "label" = 2 := by decide +kernel
  have write : run.2.2.count .timings "write" = 1 := by decide +kernel
  have at_writing : stage = .writing := short.writing.1 (by rw [label, write])
  exact ⟨fresh, rfl, by decide +kernel, label, write, by decide +kernel, calls, runs,
    at_writing ▸ failed⟩

end FaceAnnotator
