import FaceAnnotator.Telemetry.Basic
/-!
# FaceAnnotator.Proofs.Telemetry.ByName

**What telemetry makes of a name is told by the values of this name.**

Events come in any order and are mixed in any way. They count on two channels, for stages and for
metrics, which are kept apart, and each channel is a tally that values are recorded in
(`tally_observeAll`). In a tally only the values of a name reach its series, in the order they
came in (`Tally.get?_recordAll`); the sums are rounded at each step, so this order matters, and
no other does.

A tally is known by its look-ups, and a summary by the two tallies and the last progress. So mixing
the values of different names in another way comes to the same.
-/

namespace FaceAnnotator

open Numeric

/-! ### Values by name -/

/-- The values that are given for a name, in order. -/
def valuesOf (name : String) (samples : List (String × Double)) : List Double :=
  samples.filterMap fun (other, value) => if other = name then some value else none

/-- The names that values are given for, each only once, in the order of their characters. -/
structure IsIndex (names : List String) (samples : List (String × Double)) : Prop where
  ascending : names.Pairwise (· < ·)
  mem_iff : ∀ name, name ∈ names ↔ ∃ value, (name, value) ∈ samples

theorem valuesOf_cons (name : String) (sample : String × Double)
    (samples : List (String × Double)) :
    valuesOf name (sample :: samples) =
      if sample.1 = name then sample.2 :: valuesOf name samples else valuesOf name samples := by
  unfold valuesOf
  rw [List.filterMap_cons]
  split <;> split <;> simp_all

theorem valuesOf_ne_nil_iff {name : String} {samples : List (String × Double)} :
    valuesOf name samples ≠ [] ↔ ∃ value, (name, value) ∈ samples := by
  simp only [valuesOf, ne_eq, List.filterMap_eq_nil_iff]
  grind

/-- No name is used exactly if there is no value at all. -/
theorem IsIndex.eq_nil_iff {names : List String} {samples : List (String × Double)}
    (h : IsIndex names samples) :
    names = [] ↔ samples = [] := by
  rw [List.eq_nil_iff_forall_not_mem, List.eq_nil_iff_forall_not_mem]
  constructor
  · rintro nameless ⟨name, value⟩ mem
    exact nameless name ((h.mem_iff name).2 ⟨value, mem⟩)
  · intro empty name mem
    obtain ⟨value, used⟩ := (h.mem_iff name).1 mem
    exact empty (name, value) used

theorem Series.foldl_push (s : Series) (values : List Double) :
    values.foldl push s = ⟨values.foldl Binary.add s.total, s.count + values.length⟩ := by
  induction values generalizing s with
  | nil => rfl
  | cons value values ih =>
      rw [List.foldl_cons, ih, List.foldl_cons, List.length_cons, total_push, count_push]
      rw [Nat.add_assoc, Nat.add_comm 1]

/-- The series of some values holds their sum, taken step by step, and their number. -/
theorem Series.ofList_eq (values : List Double) :
    ofList values = ⟨values.foldl Binary.add (Binary.zero false), values.length⟩ := by
  rw [ofList, foldl_push, Nat.zero_add]

namespace Tally

theorem ascending_nil : ([] : List (String × Series)).Pairwise (fun a b => a.1 < b.1) := .nil

/-- The tally of no values. -/
def empty : Tally := ⟨[], ascending_nil⟩

/-- The tally with some more values, one after the other. -/
def recordAll (t : Tally) (samples : List (String × Double)) : Tally :=
  samples.foldl (fun t sample => t.record sample.1 sample.2) t

theorem recordAll_cons (t : Tally) (sample : String × Double) (samples : List (String × Double)) :
    t.recordAll (sample :: samples) = (t.record sample.1 sample.2).recordAll samples := rfl

theorem recordAll_append (t : Tally) (samples more : List (String × Double)) :
    t.recordAll (samples ++ more) = (t.recordAll samples).recordAll more :=
  List.foldl_append

/-- Only the values of a name reach its series, in their order. -/
theorem get?_recordAll (t : Tally) (samples : List (String × Double)) (name : String) :
    (t.recordAll samples).get? name =
      if valuesOf name samples = [] then t.get? name
      else some ((valuesOf name samples).foldl Series.push ((t.get? name).getD {})) := by
  induction samples generalizing t with
  | nil => rfl
  | cons sample samples ih =>
      rw [recordAll_cons, ih, get?_record, valuesOf_cons]
      by_cases same : sample.1 = name
      · rw [if_pos same.symm, if_pos same, if_neg (List.cons_ne_nil _ _), List.foldl_cons, same]
        split
        · rename_i last
          rw [last, List.foldl_nil]
        · rfl
      · rw [if_neg (Ne.symm same), if_neg same]

theorem get?_eq_some_iff {t : Tally} {name : String} {series : Series} :
    t.get? name = some series ↔ (name, series) ∈ t.entries := by
  obtain ⟨entries, ascending⟩ := t
  unfold get?
  dsimp only
  induction entries with
  | nil => simp [find]
  | cons head entries ih =>
      obtain ⟨first, its⟩ := head
      obtain ⟨least, rest⟩ := List.pairwise_cons.1 ascending
      rw [find, List.mem_cons]
      by_cases same : name = first
      · subst same
        have later : (name, series) ∉ entries := fun mem => String.lt_irrefl name (least _ mem)
        simp [later, eq_comm]
      · simp [same, ih rest]

/-- The series that a tally comes to from nothing. -/
theorem get?_recordAll_empty (samples : List (String × Double)) (name : String) :
    (empty.recordAll samples).get? name =
      if valuesOf name samples = [] then none else some (Series.ofList (valuesOf name samples)) :=
  get?_recordAll empty samples name

/-- The entries of a tally that comes from nothing: each name that was used, with its series. -/
theorem exists_index (samples : List (String × Double)) :
    ∃ names, IsIndex names samples ∧
      (empty.recordAll samples).entries =
        names.map fun name => (name, Series.ofList (valuesOf name samples)) := by
  let t := empty.recordAll samples
  have entry {name : String} {series : Series} :
      (name, series) ∈ t.entries ↔
        valuesOf name samples ≠ [] ∧ Series.ofList (valuesOf name samples) = series := by
    rw [← get?_eq_some_iff, get?_recordAll_empty]
    split <;> simp_all
  refine ⟨t.entries.map Prod.fst, ⟨List.pairwise_map.2 t.ascending, fun name => ?_⟩, ?_⟩
  · rw [← valuesOf_ne_nil_iff, List.mem_map]
    constructor
    · rintro ⟨⟨other, series⟩, mem, rfl⟩
      exact (entry.1 mem).1
    · intro used
      exact ⟨(name, _), entry.2 ⟨used, rfl⟩, rfl⟩
  · rw [List.map_map]
    refine (List.map_id' t.entries).symm.trans (List.map_congr_left ?_)
    rintro ⟨name, series⟩ mem
    exact congrArg (Prod.mk name) (entry.1 mem).2.symm

end Tally

namespace Telemetry

/-! ### Channels -/

/-- What telemetry adds up by name. -/
inductive Channel where
  /-- What the stages took. -/
  | timings
  /-- The counts of the frames. -/
  | metrics
deriving DecidableEq, Repr

namespace Channel

/-- The name and value that an event has for a channel. -/
def sample? : Channel → Event → Option (String × Double)
  | .timings, .timing stage milliseconds => some (stage, milliseconds)
  | .metrics, .metric name value => some (name, value)
  | _, _ => none

/-- The names and values that some events have for a channel. -/
def samples (c : Channel) (events : List (Double × Event)) : List (String × Double) :=
  events.filterMap fun event => c.sample? event.2

/-- The tally of a channel. -/
def tally : Channel → Telemetry → Tally
  | .timings, t => t.timings
  | .metrics, t => t.metrics

/-- The line of a name in a summary. -/
def line : Channel → String → Series → String
  | .timings => stageLine
  | .metrics => metricLine

end Channel

/-- How many frames are done, if an event says so. -/
def done? : Event → Option Nat
  | .progress current _ => some current
  | _ => none

/-- How many frames are done after some events; none if no event says anything of it. -/
def lastProgress (events : List (Double × Event)) : Nat :=
  (events.filterMap fun event => done? event.2).getLast?.getD 0

/-- Telemetry after some events, each of them some milliseconds after the start. -/
def observeAll (t : Telemetry) (events : List (Double × Event)) : Telemetry :=
  events.foldl (fun t event => (t.observe event.1 event.2).1) t

theorem observeAll_cons (t : Telemetry) (event : Double × Event) (events : List (Double × Event)) :
    t.observeAll (event :: events) = (t.observe event.1 event.2).1.observeAll events := rfl

/-- An event reaches the tally of its own channel and no other. -/
theorem tally_observe (c : Channel) (t : Telemetry) (elapsed : Double) (e : Event) :
    c.tally (t.observe elapsed e).1 = (c.tally t).recordAll (c.sample? e).toList := by
  cases c <;> cases e <;> rfl

theorem tally_observeAll (c : Channel) (t : Telemetry) (events : List (Double × Event)) :
    c.tally (t.observeAll events) = (c.tally t).recordAll (c.samples events) := by
  induction events generalizing t with
  | nil => rfl
  | cons event events ih =>
      have first : c.samples (event :: events) =
          (c.sample? event.2).toList ++ c.samples events := by
        rw [Channel.samples, List.filterMap_cons]
        cases c.sample? event.2 <;> rfl
      rw [observeAll_cons, ih, tally_observe, first, Tally.recordAll_append]

theorem frames_observe (t : Telemetry) (elapsed : Double) (e : Event) :
    (t.observe elapsed e).1.frames = (done? e).getD t.frames := by
  cases e <;> rfl

theorem frames_observeAll (t : Telemetry) (events : List (Double × Event)) :
    (t.observeAll events).frames =
      (events.filterMap fun event => done? event.2).getLast?.getD t.frames := by
  induction events generalizing t with
  | nil => rfl
  | cons event events ih =>
      rw [observeAll_cons, ih, frames_observe, List.filterMap_cons]
      cases done? event.2 with
      | none => rfl
      | some current => rw [List.getLast?_cons, Option.getD_some, Option.getD_some]

/-! ### Summaries -/

/-- Nothing was observed yet. -/
structure Fresh (t : Telemetry) : Prop where
  timings : t.timings = .empty
  metrics : t.metrics = .empty
  frames : t.frames = 0

theorem fresh_new (every : Nat) : (new every).Fresh := ⟨rfl, rfl, rfl⟩

theorem Fresh.withoutSummary {t : Telemetry} (h : t.Fresh) : t.withoutSummary.Fresh :=
  ⟨h.1, h.2, h.3⟩

theorem Fresh.tally {t : Telemetry} (h : t.Fresh) (c : Channel) : c.tally t = .empty := by
  cases c with
  | timings => exact h.timings
  | metrics => exact h.metrics

/-- The text of a summary of some events: a line for the progress they end with, one for each of the
given stages and metrics, and one for the speed if there was any progress in any time. -/
def summaryText (events : List (Double × Event)) (stages metrics : List String) (elapsed : Double) :
    String :=
  let seconds := elapsed.div (Binary.ofNat 1000)
  let lines (c : Channel) (names : List String) : List String :=
    names.map fun name => c.line name (Series.ofList (valuesOf name (c.samples events)))
  String.intercalate "\n" <|
    headline (lastProgress events) seconds :: lines .timings stages ++ lines .metrics metrics ++
      if 0 < lastProgress events ∧ (Binary.zero false).less elapsed then
        [throughputLine (lastProgress events) seconds]
      else []

/-- For each name the events give the same values in the same order, and they end with the same
progress. -/
structure SameByName (events others : List (Double × Event)) : Prop where
  values :
    ∀ (c : Channel) (name : String),
      valuesOf name (c.samples events) = valuesOf name (c.samples others)
  progress : lastProgress events = lastProgress others

variable {start : Telemetry}

theorem get?_observeAll (fresh : start.Fresh) (events : List (Double × Event)) (c : Channel)
    (name : String) :
    (c.tally (start.observeAll events)).get? name =
      if valuesOf name (c.samples events) = [] then none
      else some (Series.ofList (valuesOf name (c.samples events))) := by
  rw [tally_observeAll, fresh.tally, Tally.get?_recordAll_empty]

/-- A summary depends on the tallies and the last progress only. -/
theorem summary_congr {t u : Telemetry} (tallies : ∀ c : Channel, c.tally t = c.tally u)
    (frames : t.frames = u.frames) (elapsed : Double) : t.summary elapsed = u.summary elapsed := by
  have timings : t.timings = u.timings := tallies .timings
  have metrics : t.metrics = u.metrics := tallies .metrics
  rw [summary, summary, timings, metrics, frames]

/-- A summary tells what the events say, if they say anything on a channel. -/
theorem summary_observeAll (fresh : start.Fresh) (events : List (Double × Event)) :
    ∃ stages metrics,
      IsIndex stages (Channel.timings.samples events) ∧
        IsIndex metrics (Channel.metrics.samples events) ∧
        ∀ elapsed, (start.observeAll events).summary elapsed =
          if Channel.timings.samples events = [] ∧ Channel.metrics.samples events = [] then none
          else some (summaryText events stages metrics elapsed) := by
  obtain ⟨stages, stagesIndex, timings⟩ := Tally.exists_index (Channel.timings.samples events)
  obtain ⟨metrics, metricsIndex, counts⟩ := Tally.exists_index (Channel.metrics.samples events)
  refine ⟨stages, metrics, stagesIndex, metricsIndex, fun elapsed => ?_⟩
  rw [← fresh.tally .timings, ← tally_observeAll] at timings
  rw [← fresh.tally .metrics, ← tally_observeAll] at counts
  have frames : (start.observeAll events).frames = lastProgress events := by
    rw [frames_observeAll, fresh.frames, lastProgress]
  simp only [Channel.tally] at timings counts
  simp only [← stagesIndex.eq_nil_iff, ← metricsIndex.eq_nil_iff, summary, Tally.isEmpty, timings,
    counts, frames]
  simp [summaryText, Channel.line, Function.comp_def]

/-- An observer to whom nothing was told yet, and then any events at any times:

* the series of a name on a channel is there if the name was used on this channel, and then it holds
  the number of its values and their sum, added up one after the other from zero;
* there is a summary unless no name was used at all. It has a line for the last progress, one for
  each name in the order of their characters, first those of the stages and then those of the
  metrics, and, once any time has passed, one for the speed if there was any progress;
* events that give each name the same values in the same order, and end with the same progress, come
  to the same series and the same summary, however they are mixed, and whoever observes them. -/
theorem observeAll_by_name (fresh : start.Fresh) (events : List (Double × Event)) :
    let t := start.observeAll events
    (∀ (c : Channel) (name : String),
      let values := valuesOf name (c.samples events)
      (c.tally t).get? name =
        if values = [] then none else
          some ⟨values.foldl Binary.add (Binary.zero false), values.length⟩) ∧
    (∃ stages metrics,
      IsIndex stages (Channel.timings.samples events) ∧
        IsIndex metrics (Channel.metrics.samples events) ∧
        ∀ elapsed, t.summary elapsed =
          if Channel.timings.samples events = [] ∧ Channel.metrics.samples events = [] then none
          else some (summaryText events stages metrics elapsed)) ∧
    ∀ (others : List (Double × Event)) (other : Telemetry), SameByName events others → other.Fresh →
      (∀ (c : Channel) (name : String),
        (c.tally (other.observeAll others)).get? name = (c.tally t).get? name) ∧
        ∀ elapsed, (other.observeAll others).summary elapsed = t.summary elapsed := by
  intro t
  refine ⟨fun c name => ?_, summary_observeAll fresh events, fun others other same fresh' => ?_⟩
  · simp only [← Series.ofList_eq]
    exact get?_observeAll fresh events c name
  · have series (c : Channel) (name : String) :
        (c.tally (other.observeAll others)).get? name = (c.tally t).get? name := by
      rw [get?_observeAll fresh', get?_observeAll fresh, same.values]
    have frames : (other.observeAll others).frames = t.frames := by
      rw [frames_observeAll, frames_observeAll, fresh.frames, fresh'.frames]
      exact same.progress.symm
    exact ⟨series, summary_congr (fun c => Tally.ext_get? (series c)) frames⟩

/-- Two stages, one of them with the name of a metric, and progress in between. -/
def mixedEvents : List (Double × Event) :=
  [(.ofNat 1, .timing "read" (.ofNat 20)), (.ofNat 2, .metric "read" (.ofNat 7)),
    (.ofNat 3, .progress 1 2),
    (.ofNat 4, .timing "label" (.ofNat 5)), (.ofNat 5, .timing "read" (.ofNat 30)),
    (.ofNat 6, .progress 2 2), (.ofNat 7, .finished)]

/-- The same values, name by name. -/
def sortedEvents : List (Double × Event) :=
  [(.ofNat 1, .info "again"), (.ofNat 1, .timing "label" (.ofNat 5)),
    (.ofNat 1, .timing "read" (.ofNat 20)),
    (.ofNat 1, .timing "read" (.ofNat 30)), (.ofNat 1, .metric "read" (.ofNat 7)),
    (.ofNat 1, .progress 2 9)]

theorem sameByName_mixedEvents : SameByName mixedEvents sortedEvents where
  values := by
    intro c name
    cases c with
    | metrics => rfl
    | timings =>
        have mixed : Channel.timings.samples mixedEvents =
            [("read", .ofNat 20), ("label", .ofNat 5), ("read", .ofNat 30)] := rfl
        have sorted : Channel.timings.samples sortedEvents =
            [("label", .ofNat 5), ("read", .ofNat 20), ("read", .ofNat 30)] := rfl
        rw [mixed, sorted]
        grind [valuesOf_cons]
  progress := rfl

/-- The times of a stage are added up among other events, and nothing is known of a metric
that has the name of a stage. Sorted by name, and with another observer, the events come to
the same summary. -/
theorem observeAll_by_name_of_mixedEvents :
    let t := (new 3).observeAll mixedEvents
    (new 3).Fresh ∧ (new 0).withoutSummary.Fresh ∧ SameByName mixedEvents sortedEvents ∧
      t.timings.get? "read" = some ⟨.ofNat 50, 2⟩ ∧ t.metrics.get? "label" = none ∧
      ∀ elapsed, ((new 0).withoutSummary.observeAll sortedEvents).summary elapsed =
        t.summary elapsed := by
  intro t
  obtain ⟨series, -, mixing⟩ := observeAll_by_name (fresh_new 3) mixedEvents
  have other : (new 0).withoutSummary.Fresh := (fresh_new 0).withoutSummary
  have read : t.timings.get? "read" = _ := series .timings "read"
  have label : t.metrics.get? "label" = _ := series .metrics "label"
  have sum : [Binary.ofNat 20, Binary.ofNat 30].foldl Binary.add (Binary.zero false) =
      (.ofNat 50 : Double) := by
    decide +kernel
  refine ⟨fresh_new 3, other, sameByName_mixedEvents, read.trans ?_, label, ?_⟩
  · rw [← sum]
    rfl
  · exact (mixing sortedEvents _ sameByName_mixedEvents other).2

end Telemetry

end FaceAnnotator
