import FaceAnnotator.Proofs.Labeling.Relabel
import FaceAnnotator.Proofs.Recording.Framing
import FaceAnnotator.Proofs.Session.Refinement
import Mathlib.Data.List.TakeWhile
/-!
# FaceAnnotator.Proofs.Session.Rerun

**What comes of running again over the output of a run.**

The output has a line for every frame, and the labels on it are those that a second run would write.
So the second run repeats the first, if each word of data reads back as itself. But data may have
been read that is no number: the least text beyond the range of the narrow format is read as an
infinity. It is written as `null`, and there the second run ends.
-/

namespace FaceAnnotator

open Numeric

/-! ### Labels and data do not touch each other -/

theorem Tensor.isFinite_relabel (t : Tensor) : t.relabel.isFinite = t.isFinite := by
  simp [Tensor.isFinite]

theorem Region.isFinite_relabel (r : Region) : r.relabel.isFinite = r.isFinite := by
  simp [Region.isFinite, Region.relabel, Function.comp_def, Tensor.isFinite_relabel]

theorem Frame.isFinite_relabel (f : Frame) : f.relabel.isFinite = f.isFinite := by
  simp [Frame.isFinite, Frame.relabel, Function.comp_def, Region.isFinite_relabel]

theorem Tensor.relabel_reread {t : Tensor} (h : t.reread = t) : t.relabel.reread = t.relabel := by
  obtain ⟨label, eq⟩ := t.relabel_eq
  have data : t.data.map Single.reread = t.data := congrArg Tensor.data h
  rw [eq, Tensor.reread]
  simp only [data]

theorem Frame.reread_relabel {f : Frame} (h : ∀ t ∈ f.tensors, t.reread = t) :
    f.relabel.reread = f.relabel := by
  have regions : ∀ r ∈ f.regions, r.relabel.reread = r.relabel := by
    intro r mem
    have tensors : ∀ t ∈ r.tensors, t.relabel.reread = t.relabel := fun t mem' =>
      Tensor.relabel_reread (h t (List.mem_flatMap.2 ⟨r, mem, mem'⟩))
    simp only [Region.reread, Region.relabel, List.map_map]
    congr 1
    exact List.map_congr_left tensors
  simp only [Frame.reread, Frame.relabel, List.map_map]
  congr 1
  exact List.map_congr_left regions

theorem Frame.isFinite_of_mem {f : Frame} {t : Tensor} {x : Single} (h : f.isFinite = true)
    (mem : t ∈ f.tensors) (mem' : x ∈ t.data) : x.isFinite = true := by
  obtain ⟨r, region, tensor⟩ := List.mem_flatMap.1 mem
  exact List.all_eq_true.1 (List.all_eq_true.1 (List.all_eq_true.1 h r region) t tensor) x mem'

/-! ### The lines of an output -/

theorem heldLines_ended (frames : List Frame) :
    heldLines (Text.ended (frames.map Frame.json)) = numberedFrom 1 (frames.map Frame.json) := by
  have lines := @items_of_ended frames [] ⟨default, List.nil_prefix⟩
  rw [List.append_nil, frameLines_eq_heldLines] at lines
  rw [lines]
  simp [Text.remainder]

theorem workable_json {f : Frame} (finite : f.isFinite = true) (same : f.reread = f)
    (decodable : f.undecodable? = none) (number : Nat) : workable (number, f.json) = .ok f := by
  simp [workable, Frame.ofJson_of_isFinite finite, same, decodable]

theorem workable_json_of_not_isFinite {f : Frame} (infinite : ¬f.isFinite = true) (number : Nat) :
    ∃ complaint, workable (number, f.json) = .error (.transfer (.badLine number complaint)) ∧
      complaint.cause.category = .content := by
  have refuses := f.answers_read
  rw [if_neg infinite] at refuses
  obtain ⟨complaint, refused, content⟩ := refuses.document_none
  have refused : Frame.ofJson f.json = .error complaint := refused
  exact ⟨complaint, by simp [workable, refused], content⟩

/-- The lines of frames that read back as they are: the first one with a word that is no number is
of no use. -/
theorem workableFrames_numberedFrom {frames : List Frame}
    (h : ∀ f ∈ frames, (f.isFinite = true → f.reread = f) ∧ f.undecodable? = none) (number : Nat) :
    workableFrames (numberedFrom number (frames.map Frame.json)) = frames.takeWhile Frame.isFinite ∧
      if frames.all Frame.isFinite then
        firstFault? (numberedFrom number (frames.map Frame.json)) = none
      else
        ∃ complaint, firstFault? (numberedFrom number (frames.map Frame.json)) =
            some (.transfer
              (.badLine (number + (frames.takeWhile Frame.isFinite).length) complaint)) ∧
          complaint.cause.category = .content := by
  induction frames generalizing number with
  | nil => exact ⟨rfl, rfl⟩
  | cons f frames ih =>
      rw [List.map_cons, numberedFrom, List.all_cons]
      by_cases finite : f.isFinite = true
      · obtain ⟨same, decodable⟩ := h f List.mem_cons_self
        have first := workable_json finite (same finite) decodable number
        have later := ih (fun g mem => h g (List.mem_cons_of_mem f mem)) (number + 1)
        have place : number + 1 + (frames.takeWhile Frame.isFinite).length =
            number + (f :: frames.takeWhile Frame.isFinite).length := by
          rw [List.length_cons]
          omega
        rw [workableFrames_cons_of_ok first, firstFault?_cons_of_ok first,
          List.takeWhile_cons_of_pos finite, finite, Bool.true_and, ← place]
        exact ⟨by rw [later.1], later.2⟩
      · obtain ⟨complaint, first, content⟩ := workable_json_of_not_isFinite finite number
        rw [workableFrames_cons_of_error first, firstFault?_cons_of_error first,
          List.takeWhile_cons_of_neg finite, if_neg (by simp [finite])]
        exact ⟨rfl, complaint, rfl, content⟩

theorem isFinite_of_firstFault? {frames : List Frame} {number : Nat}
    (h : firstFault? (numberedFrom number (frames.map Frame.json)) = none) :
    ∀ f ∈ frames, f.isFinite = true := by
  induction frames generalizing number with
  | nil => exact fun f mem => nomatch mem
  | cons f frames ih =>
      rw [List.map_cons, numberedFrom] at h
      cases first : workable (number, f.json) with
      | error fault =>
          rw [firstFault?_cons_of_error first] at h
          cases h
      | ok g =>
          rw [firstFault?_cons_of_ok first] at h
          have finite : f.isFinite = true := by
            by_contra infinite
            obtain ⟨complaint, refused, -⟩ := workable_json_of_not_isFinite infinite number
            rw [refused] at first
            cases first
          intro other mem
          rcases List.mem_cons.1 mem with rfl | mem
          · exact finite
          · exact ih h other mem

theorem undecodable?_of_mem_workableFrames {lines : List (Nat × List Char)} {f : Frame}
    (h : f ∈ workableFrames lines) : f.undecodable? = none := by
  induction lines with
  | nil => cases h
  | cons line lines ih =>
      cases first : workable line with
      | error fault =>
          rw [workableFrames_cons_of_error first] at h
          cases h
      | ok g =>
          rw [workableFrames_cons_of_ok first] at h
          rcases List.mem_cons.1 h with rfl | h
          · unfold workable at first
            split at first
            · cases first
            · split at first
              · cases first
              · rename_i decodable
                cases first
                exact decodable
          · exact ih h

/-- The labeled lines are the text of the labeled frames. -/
theorem labeledBytes_eq_encode {frames : List Frame} (h : ∀ f ∈ frames, f.undecodable? = none) :
    labeledBytes frames = Text.encode (Text.ended ((frames.map Frame.relabel).map Frame.json)) := by
  rw [encode_ended, List.flatMap_map]
  induction frames with
  | nil => rfl
  | cons f frames ih =>
      have first := Frame.annotate_of_decodable (h f List.mem_cons_self)
      have others := ih fun g mem => h g (List.mem_cons_of_mem f mem)
      rw [labeledBytes] at others ⊢
      rw [List.flatMap_cons, List.flatMap_cons, first, others]

theorem labeledBytes_relabel {frames : List Frame} (h : ∀ f ∈ frames, f.undecodable? = none) :
    labeledBytes (frames.map Frame.relabel) = labeledBytes frames := by
  have relabeled : ∀ f ∈ frames.map Frame.relabel, f.undecodable? = none := by
    intro f mem
    obtain ⟨g, read, rfl⟩ := List.mem_map.1 mem
    rw [Frame.undecodable?_relabel]
    exact h g read
  have twice : (frames.map Frame.relabel).map Frame.relabel = frames.map Frame.relabel := by
    rw [List.map_map]
    exact List.map_congr_left fun f _ => f.relabel_relabel
  rw [labeledBytes_eq_encode relabeled, labeledBytes_eq_encode h, twice]

theorem countedFrom_relabel (stats : RunStats) (frames : List Frame) :
    countedFrom stats (frames.map Frame.relabel) = countedFrom stats frames := by
  simp [countedFrom, Function.comp_def, Frame.countP_labelable_relabel]

/-- Without a limit only a line of no use can spoil a run. -/
theorem runOutcome_unlimited (content : List Char) :
    runOutcome none none content =
      match firstFault? (heldLines content) with
      | some fault => .error fault
      | none => .ok (countedFrom {} (workableFrames (heldLines content))) := by
  have fits : firstMisfit? none 0 (workableFrames (heldLines content)) = none :=
    (firstMisfit?_eq_none_iff none _ (admits_none 0)).2 (admits_none _)
  unfold runOutcome roundsOutcome
  rw [fits]
  cases firstFault? (heldLines content) <;> rfl

namespace Session

variable {ω : Type}

/-- A new session runs over a file with the given bytes, and writes into a memory without a
limit. -/
@[irreducible]
def runOver (log : Record → StateM ω Unit) (now : StateM ω Nat) (started : Nat) (path : String)
    (bytes : List UInt8) (w : ω) :
    Except (RunFault RecordingFault Undecodable) RunStats × Session Memory :=
  ((pipeline (fun _ => pure (.ok bytes)) Memory.device log now started).run path
    ⟨{}, {}, ⟨true, {}⟩, .new⟩ w).1

variable {log : Record → StateM ω Unit} {now : StateM ω Nat} {started : Nat} {path : String} {w : ω}

theorem runOver_encode (content : List Char) :
    (runOver log now started path (Text.encode content) w).1 = runOutcome none none content ∧
      (runOver log now started path (Text.encode content) w).2.writer.device.bytes =
        labeledBytes (workableFrames (heldLines content)) := by
  unfold runOver
  exact triple_run path content none none _ w ⟨rfl, rfl, rfl⟩

theorem runOver_of_runOutcome {content : List Char}
    {outcome : Except (RunFault RecordingFault Undecodable) RunStats}
    (h : runOutcome none none content = outcome) :
    (runOver log now started path (Text.encode content) w).1 = outcome :=
  (runOver_encode content).1.trans h

/-- A run over the output of a run comes to its end only if all data in it is numbers. If moreover
each number of the data reads back as itself, the second run counts the same and writes the same
bytes; and if there is a word that is no number, it repeats the first run up to the frame with the
first such word, and complains about that line. -/
theorem rerun_of_runOver (log : Record → StateM ω Unit) (now : StateM ω Nat)
    (started started' : Nat) (path path' : String) (content : List Char) (w w' : ω)
    (stats : RunStats) (h : (runOver log now started path (Text.encode content) w).1 = .ok stats) :
    let written := (runOver log now started path (Text.encode content) w).2.writer.device.bytes
    let again := runOver log now started' path' written w'
    let frames := workableFrames (heldLines content)
    (∀ others, again.1 = .ok others → ∀ f ∈ frames, f.isFinite = true) ∧
      ((∀ f ∈ frames, ∀ t ∈ f.tensors, ∀ x ∈ t.data, x.isFinite = true → x.reread = x) →
        if frames.all Frame.isFinite then
          again.1 = .ok stats ∧ again.2.writer.device.bytes = written
        else
          ∃ complaint,
            again.1 = .error (.transfer
              (.badLine ((frames.takeWhile Frame.isFinite).length + 1) complaint)) ∧
            complaint.cause.category = .content ∧
            again.2.writer.device.bytes = labeledBytes (frames.takeWhile Frame.isFinite)) := by
  intro written again frames
  have decodable : ∀ f ∈ frames, f.undecodable? = none := fun f mem =>
    undecodable?_of_mem_workableFrames mem
  let output := Text.ended ((frames.map Frame.relabel).map Frame.json)
  have first : written = labeledBytes frames := (runOver_encode content).2
  have spelled : written = Text.encode output := first.trans (labeledBytes_eq_encode decodable)
  have lines : heldLines output = numberedFrom 1 ((frames.map Frame.relabel).map Frame.json) :=
    heldLines_ended _
  have counted : stats = countedFrom {} frames := by
    rw [(runOver_encode content).1, runOutcome_unlimited] at h
    split at h
    · cases h
    · exact (Except.ok.inj h).symm
  have second : again.1 = runOutcome none none output ∧
      again.2.writer.device.bytes = labeledBytes (workableFrames (heldLines output)) := by
    have repeated := @runOver_encode ω log now started' path' w' output
    rw [← spelled] at repeated
    exact repeated
  obtain ⟨outcome, stored⟩ := second
  rw [runOutcome_unlimited] at outcome
  refine ⟨fun others ended f mem => ?_, fun stable => ?_⟩
  · rw [outcome, lines] at ended
    split at ended
    · cases ended
    · rename_i good
      have finite := isFinite_of_firstFault? good f.relabel (List.mem_map_of_mem mem)
      rwa [Frame.isFinite_relabel] at finite
  · have whole : ∀ f ∈ frames.map Frame.relabel,
        (f.isFinite = true → f.reread = f) ∧ f.undecodable? = none := by
      intro f mem
      obtain ⟨g, read, rfl⟩ := List.mem_map.1 mem
      rw [Frame.isFinite_relabel, Frame.undecodable?_relabel]
      refine ⟨fun finite => Frame.reread_relabel fun t mem => ?_, decodable g read⟩
      exact Tensor.reread_eq_self fun x mem' =>
        stable g read t mem x mem' (Frame.isFinite_of_mem finite mem mem')
    have relabeled : (frames.map Frame.relabel).takeWhile Frame.isFinite =
        (frames.takeWhile Frame.isFinite).map Frame.relabel := by
      rw [List.takeWhile_map]
      simp only [Function.comp_def, Frame.isFinite_relabel]
    have all : (frames.map Frame.relabel).all Frame.isFinite = frames.all Frame.isFinite := by
      rw [List.all_map]
      simp only [Function.comp_def, Frame.isFinite_relabel]
    obtain ⟨read, fault⟩ := workableFrames_numberedFrom whole 1
    rw [← lines, relabeled] at read fault
    rw [all] at fault
    have kept : labeledBytes ((frames.takeWhile Frame.isFinite).map Frame.relabel) =
        labeledBytes (frames.takeWhile Frame.isFinite) :=
      labeledBytes_relabel fun f mem => decodable f ((List.takeWhile_sublist _).subset mem)
    rw [read, kept] at stored
    split
    · rename_i finite
      rw [if_pos finite] at fault
      have every : frames.takeWhile Frame.isFinite = frames := by
        rw [List.takeWhile_eq_self_iff]
        exact List.all_eq_true.1 finite
      rw [every] at stored read
      rw [fault, read, countedFrom_relabel, ← counted] at outcome
      exact ⟨outcome, stored.trans first.symm⟩
    · rename_i infinite
      rw [if_neg infinite, List.length_map, Nat.add_comm] at fault
      obtain ⟨complaint, fault, category⟩ := fault
      rw [fault] at outcome
      exact ⟨complaint, outcome, category, stored⟩

/-- A recording of one frame with one tensor. -/
def oneTensorLine (layer data : String) : List Char :=
  ("\x7b\"index\":3,\"regions\":[\x7b\"x\":0,\"y\":0,\"width\":1,\"height\":1,\"tensors\":[" ++
    "\x7b\"name\":\"g\",\"layer_name\":\"" ++ layer ++ "\",\"data\":[" ++ data ++
    "]\x7d]\x7d]\x7d\n").toList

/-- The frame in such a recording. -/
def oneTensorFrame (layer : String) (data : List Single) : Frame :=
  ⟨3, [⟨0, 0, 1, 1, [⟨"g", layer, data, none⟩]⟩]⟩

theorem rerun_of_gender_line :
    let ran := runOver (fun _ => pure ()) (pure 0) 0 "in"
      (Text.encode (oneTensorLine "prob" "0.25,75e-2")) ()
    let again := runOver (fun _ => pure ()) (pure 0) 0 "out" ran.2.writer.device.bytes ()
    ran.1 = .ok ⟨1, 1, 1, false⟩ ∧ again.1 = .ok ⟨1, 1, 1, false⟩ ∧
      again.2.writer.device.bytes = ran.2.writer.device.bytes := by
  have outcome :
      runOutcome none none (oneTensorLine "prob" "0.25,75e-2") = .ok ⟨1, 1, 1, false⟩ := by
    decide +kernel
  have read : workableFrames (heldLines (oneTensorLine "prob" "0.25,75e-2")) =
      [oneTensorFrame "prob" [⟨0x3e800000⟩, ⟨0x3f400000⟩]] := by decide +kernel
  have stable : ∀ f ∈ [oneTensorFrame "prob" [⟨0x3e800000⟩, ⟨0x3f400000⟩]],
      ∀ t ∈ f.tensors, ∀ x ∈ t.data,
      x.isFinite = true → x.reread = x := by decide +kernel
  have finite : [oneTensorFrame "prob" [⟨0x3e800000⟩, ⟨0x3f400000⟩]].all Frame.isFinite = true := by
    decide +kernel
  have ended := @runOver_of_runOutcome Unit (fun _ => pure ()) (pure 0) 0 "in" () _ _ outcome
  have repeated := (rerun_of_runOver _ _ _ 0 _ "out" _ _ () _ ended).2
  rw [read, if_pos finite] at repeated
  exact ⟨ended, repeated stable⟩

/-- Data beyond the range of the narrow format is labeled without a complaint, and what was written
for it cannot be read. -/
theorem overflow_not_read_again :
    let ran :=
      runOver (fun _ => pure ()) (pure 0) 0 "in" (Text.encode (oneTensorLine "l" "1e39")) ()
    ran.1 = .ok ⟨1, 1, 0, false⟩ ∧
      ran.2.writer.device.bytes = Text.encode (oneTensorLine "l" "null") ∧
      (runOver (fun _ => pure ()) (pure 0) 0 "out" ran.2.writer.device.bytes ()).1 =
        .error (.transfer (.badLine 1 ⟨.wrongType .null "f32", ⟨1, 108⟩⟩)) := by
  have outcome : runOutcome none none (oneTensorLine "l" "1e39") = .ok ⟨1, 1, 0, false⟩ := by
    decide +kernel
  have read : workableFrames (heldLines (oneTensorLine "l" "1e39")) =
      [oneTensorFrame "l" [⟨0x7f800000⟩]] := by
    decide +kernel
  have kept : labeledBytes [oneTensorFrame "l" [⟨0x7f800000⟩]] =
      Text.encode (oneTensorLine "l" "null") := by
    decide +kernel
  have refused : runOutcome none none (oneTensorLine "l" "null") =
      .error (.transfer (.badLine 1 ⟨.wrongType .null "f32", ⟨1, 108⟩⟩)) := by decide +kernel
  have stored :=
    (@runOver_encode Unit (fun _ => pure ()) (pure 0) 0 "in" () (oneTensorLine "l" "1e39")).2
  rw [read, kept] at stored
  refine ⟨runOver_of_runOutcome outcome, stored, ?_⟩
  rw [stored]
  exact runOver_of_runOutcome refused

end Session

end FaceAnnotator
