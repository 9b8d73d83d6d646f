import FaceAnnotator.Proofs.Session.Invariant
import FaceAnnotator.Proofs.Session.Refinement
import FaceAnnotator.Proofs.Text.Utf8
/-!
# FaceAnnotator.Proofs.Session.Repetition

**One session, run again and again.**

A session stores what comes of a single recording: the first one that can be opened. Runs over what
cannot be opened leave everything as it was, so they may come before it in any number. Closing is
part of the run over it, however that run ends, and a closed writer stores nothing more. What later
runs come to is told by their own recordings alone (`Visit.outcome`).

Nothing is known here of the device or the surroundings.
-/

namespace FaceAnnotator

/-- What the rounds over some lines come to if nothing can be stored: they end at the first line. -/
def refusedOutcome (lines : List (Nat × List Char)) :
    Except (RunFault RecordingFault Undecodable) RunStats :=
  match lines with
  | [] => .ok {}
  | line :: _ =>
    match workable line with
    | .error fault => .error fault
    | .ok _ => .error (.transfer .closed)

/-- What a run is to be over: a path, and what is found there. -/
structure Visit where
  path : String
  found : Except SystemError (List UInt8)

namespace Visit

/-- There is a text to be read. -/
def Opens (v : Visit) : Prop := ∃ text, v.found = .ok (Text.encode text)

/-- What a run comes to if nothing can be stored. -/
def outcome (v : Visit) : Except (RunFault RecordingFault Undecodable) RunStats :=
  match LineReader.textOf v.found with
  | .error cause => .error (.transfer (.unreadable v.path cause))
  | .ok text => refusedOutcome (heldLines text)

theorem opens_iff {v : Visit} : v.Opens ↔ ∃ text, LineReader.textOf v.found = .ok text := by
  unfold Opens LineReader.textOf
  cases v.found with
  | error cause => simp
  | ok bytes =>
      constructor
      · rintro ⟨text, same⟩
        rw [Except.ok.inj same]
        exact ⟨text, by simp⟩
      · rintro ⟨text, read⟩
        cases decoded : Text.decode bytes with
        | none => simp [decoded] at read
        | some text => exact ⟨text, by rw [Text.encode_of_decode decoded]⟩

end Visit

namespace Session

variable {ω δ : Type} (d : Device (StateM ω) δ) (log : Record → StateM ω Unit) (now : StateM ω Nat)
  (started : Nat)

/-- One run of a session. -/
def visit (v : Visit) :
    StateT (Session δ) (StateM ω) (Except (RunFault RecordingFault Undecodable) RunStats) :=
  (pipeline (fun _ => pure v.found) d log now started).run v.path

/-- Runs of a session, one after the other, and what they come to. -/
def visitAll :
    List Visit → StateT (Session δ) (StateM ω)
      (List (Except (RunFault RecordingFault Undecodable) RunStats))
  | [] => pure []
  | v :: visits => do
    let outcome ← visit d log now started v
    let outcomes ← visitAll visits
    pure (outcome :: outcomes)

variable {d log now started}

theorem visitAll_cons (v : Visit) (visits : List Visit) (s : Session δ) (w : ω) :
    visitAll d log now started (v :: visits) s w =
      let first := visit d log now started v s w
      let others := visitAll d log now started visits first.1.2 first.2
      ((first.1.1 :: others.1.1, others.1.2), others.2) := rfl

theorem visitAll_append (visits more : List Visit) (s : Session δ) (w : ω) :
    visitAll d log now started (visits ++ more) s w =
      let first := visitAll d log now started visits s w
      let others := visitAll d log now started more first.1.2 first.2
      ((first.1.1 ++ others.1.1, others.1.2), others.2) := by
  induction visits generalizing s w with
  | nil => rfl
  | cons v visits ih => simp only [List.cons_append, visitAll_cons, ih]

/-- A run over a text is one whose file holds the text. -/
theorem visit_encode (path : String) (text : List Char) :
    visit d log now started ⟨path, .ok (Text.encode text)⟩ =
      (pipeline (fun _ => pure (.ok (Text.encode text))) d log now started).run path := rfl

/-! ### Nothing to open -/

/-- A run that cannot open its recording leaves the session and the surroundings as they were. -/
theorem visit_of_not_opens {v : Visit} (h : ¬v.Opens) (s : Session δ) (w : ω) :
    visit d log now started v s w = ((v.outcome, s), w) := by
  have unmoved : Triple (fun s' w' => s' = s ∧ w' = w) (visit d log now started v)
      fun outcome s' w' => outcome = v.outcome ∧ s' = s ∧ w' = w := by
    unfold Visit.outcome
    cases read : LineReader.textOf v.found with
    | ok text => exact absurd (Visit.opens_iff.2 ⟨text, read⟩) h
    | error cause =>
        refine Triple.bind_of_eq (a := .error (.unreadable v.path cause))
          (Q := fun _ s' w' => s' = s ∧ w' = w) ?_ ?_
        · refine Triple.bind_of_eq (a := v.found) (Q := fun _ s' w' => s' = s ∧ w' = w) ?_ ?_
          · exact fun _ _ same => ⟨rfl, same⟩
          refine Triple.bind_of_eq (a := s.reader) (Q := fun _ s' w' => s' = s ∧ w' = w) ?_ ?_
          · exact fun _ _ same => ⟨congrArg Session.reader same.1, same⟩
          simp only [LineReader.connect, read]
          refine Triple.bind (Q := fun _ s' w' => s' = s ∧ w' = w) ?_ fun _ => ?_
          · rintro _ _ ⟨rfl, rfl⟩
            exact ⟨rfl, rfl⟩
          · exact .done fun _ _ same => ⟨rfl, same⟩
        · exact .done fun _ _ same => ⟨rfl, same⟩
  obtain ⟨outcome, session, surroundings⟩ := unmoved s w ⟨rfl, rfl⟩
  exact Prod.ext (Prod.ext outcome session) surroundings

theorem visitAll_of_not_opens {visits : List Visit} (h : ∀ v ∈ visits, ¬v.Opens) (s : Session δ)
    (w : ω) :
    visitAll d log now started visits s w = ((visits.map Visit.outcome, s), w) := by
  induction visits with
  | nil => rfl
  | cons v visits ih =>
      rw [visitAll_cons, visit_of_not_opens (h v List.mem_cons_self)]
      simp only [ih fun u mem => h u (List.mem_cons_of_mem v mem), List.map_cons]

/-! ### The recording that is opened -/

section opened

variable {readFile : String → StateM ω (Except SystemError (List UInt8))}

/-- Nothing is known of the states, and nothing has to be. -/
theorem triple_anything {α : Type} (x : StateT (Session δ) (StateM ω) α) :
    Triple (fun _ _ => True) x fun _ _ _ => True :=
  fun _ _ _ => trivial

/-- To close the sink closes the writer, also if it cannot be flushed. -/
theorem triple_closeSink_isOpen :
    Triple (fun _ _ => True) (pipeline readFile d log now started).sink.close
      fun _ (s : Session δ) _ => s.writer.isOpen = false := by
  refine Triple.bind (triple_anything _) fun v => ?_
  refine Triple.bind (Q := fun closed _ _ => closed.2.isOpen = false) ?_ fun closed => ?_
  · unfold LineWriter.close
    cases shut : v.isOpen with
    | true =>
        refine Triple.bind (triple_anything _) fun flushed => ?_
        refine Triple.bind (triple_anything _) fun state => ?_
        cases flushed.1 <;> exact .done fun _ _ _ => rfl
    | false => exact .done fun _ _ _ => shut
  · exact Triple.bind (Q := fun _ s _ => s.writer.isOpen = false) (fun _ _ shut => shut) fun _ =>
      .done fun _ _ shut => shut

theorem triple_observe_isOpen (e : Event) :
    Triple (fun (s : Session δ) _ => s.writer.isOpen = false)
      ((pipeline readFile d log now started).observe e) fun _ s _ => s.writer.isOpen = false :=
  fun s w shut => (congrArg LineWriter.isOpen (triple_observe e s w ⟨rfl, rfl, rfl⟩).2.2).trans shut

/-- After a run over a recording that can be opened the writer is closed. -/
theorem isOpen_visit {v : Visit} (h : v.Opens) (s : Session δ) (w : ω) :
    (visit d log now started v s w).1.2.writer.isOpen = false := by
  obtain ⟨text, read⟩ := Visit.opens_iff.1 h
  have shut : Triple (fun _ _ => True) (visit d log now started v)
      fun _ (s : Session δ) _ => s.writer.isOpen = false := by
    refine Triple.bind_of_eq (a := .ok (frameLines text).length) (Q := fun _ _ _ => True) ?_ ?_
    · intro s w _
      have connected :
          ((pipeline (fun _ => pure v.found) d log now started).source.connect v.path s w).1.1 =
            _ :=
        (triple_connect (fun _ => rfl) s w ⟨rfl, rfl, rfl⟩).1
      simp only [LineReader.connect, read] at connected
      exact ⟨connected, trivial⟩
    refine Triple.bind (triple_anything _) fun _ => Triple.bind (triple_anything _) fun feed => ?_
    refine Triple.bind (triple_anything _) fun outcome =>
      Triple.bind (triple_anything _) fun _ => ?_
    refine Triple.bind triple_closeSink_isOpen fun closed => ?_
    cases Pipeline.verdict outcome closed with
    | error fault => exact .done fun _ _ shut => shut
    | ok stats => exact Triple.bind (triple_observe_isOpen _) fun _ => .done fun _ _ shut => shut
  exact shut s w trivial

end opened

/-! ### A closed writer -/

section closed

variable {readFile : String → StateM ω (Except SystemError (List UInt8))} {r : LineReader}
  {a : Annotator}
  {v : LineWriter δ} (shut : v.isOpen = false)
include shut

theorem triple_write_closed (f : Frame) :
    Triple (Holds r a v) ((pipeline readFile d log now started).sink.write f)
      fun outcome s w => outcome = .error .closed ∧ Holds r a v s w := by
  refine Triple.bind_of_eq (a := v) (Q := fun _ => Holds r a v) (fun s w h => ⟨h.2.2, h⟩) ?_
  rw [LineWriter.write_of_closed shut, pure_bind]
  exact Triple.bind (Q := fun _ => Holds r a v) (fun s w h => ⟨h.1, h.2.1, rfl⟩)
    fun _ => .done fun _ _ h => ⟨rfl, h⟩

theorem triple_closeSink_closed :
    Triple (Holds r a v) (pipeline readFile d log now started).sink.close
      fun outcome s w => outcome = .ok () ∧ Holds r a v s w := by
  refine Triple.bind_of_eq (a := v) (Q := fun _ => Holds r a v) (fun s w h => ⟨h.2.2, h⟩) ?_
  rw [LineWriter.close_of_closed shut, pure_bind]
  exact Triple.bind (Q := fun _ => Holds r a v) (fun s w h => ⟨h.1, h.2.1, rfl⟩)
    fun _ => .done fun _ _ h => ⟨rfl, h⟩

/-- The rounds end at the first line, whether it is of use or not. -/
theorem triple_rounds_closed (total : Nat) (lines : List (Nat × List Char)) :
    Triple (Holds r a v)
      ((pipeline readFile d log now started).rounds total (pure ()) {}
        (lines.map fun (number, line) => (fun _ => LineReader.readLine number line) <$> pure ()))
      fun outcome s w => outcome = refusedOutcome lines ∧ ∃ a, Holds r a v s w := by
  cases lines with
  | nil => exact .done fun _ _ holds => ⟨rfl, a, holds⟩
  | cons line lines =>
      obtain ⟨number, text⟩ := line
      cases h : workable (number, text) with
      | error fault =>
          refine Triple.bind_of_eq (triple_round_of_error h) ?_
          exact .done fun _ _ holds => ⟨by rw [refusedOutcome, h], holds⟩
      | ok f =>
          refine Triple.bind_of_eq
            (triple_round_of_written h fun a => triple_write_closed shut _) ?_
          exact .done fun _ _ holds => ⟨by rw [refusedOutcome, h], holds⟩

/-- A run with a closed writer comes to what its recording says. -/
theorem triple_visit_closed (u : Visit) :
    Triple (Holds r a v) (visit d log now started u)
      fun outcome s w => outcome = u.outcome ∧ ∃ r a, Holds r a v s w := by
  unfold Visit.outcome
  refine Triple.bind_of_eq (triple_connect fun _ => rfl) ?_
  cases read : LineReader.textOf u.found with
  | error cause =>
      simp only [LineReader.connect, read]
      exact .done fun _ _ holds => ⟨rfl, r, a, holds⟩
  | ok text =>
      simp only [LineReader.connect, read, frameLines_eq_heldLines]
      refine Triple.bind (triple_observe _) fun _ => ?_
      refine Triple.bind_of_eq (triple_frames _ _) ?_
      refine Triple.bind_of_eq (triple_rounds_closed shut _ _) ?_
      refine Triple.of_exists fun a => Triple.bind triple_closeSource fun _ => ?_
      refine Triple.bind_of_eq (triple_closeSink_closed shut) ?_
      cases refusedOutcome (heldLines text) with
      | error fault => exact .done fun _ _ holds => ⟨rfl, _, _, holds⟩
      | ok stats =>
          refine Triple.bind (triple_observe _) fun _ => ?_
          exact .done fun _ _ holds => ⟨rfl, _, _, holds⟩

/-- With a closed writer no operation of a run reaches the device. So the writer stays as it is, and
of the surroundings what reading files, logging and looking at the clock preserve. -/
theorem upholds_closed {K : ω → Prop} (reads : ∀ path, Leaves K (readFile path) fun _ => K)
    (logs : ∀ record, Leaves K (log record) fun _ => K) (looks : Leaves K now fun _ => K)
    (path : String) :
    Upholds readFile d log now path (fun _ => True) (fun u w => u = v ∧ K w) True where
  connect _ _ _ := fun w kept => ⟨trivial, kept.1, reads path w kept.2⟩
  closeReader _ _ := trivial
  feed _ _ _ _ _ := trivial
  write _ u f := by
    rintro s w ⟨-, rfl, kept⟩
    rw [LineWriter.write_of_closed shut]
    exact ⟨trivial, rfl, kept⟩
  closeWriter u := by
    rintro s w ⟨-, rfl, kept⟩
    rw [LineWriter.close_of_closed shut]
    exact ⟨trivial, rfl, kept⟩
  log _ record := fun w kept => ⟨kept.1, logs record w kept.2⟩
  now _ := fun w kept => ⟨kept.1, looks w kept.2⟩

end closed

/-- Runs with a closed writer come to what their recordings say, one by one, and leave the writer
alone. -/
theorem visitAll_of_closed {s : Session δ} (shut : s.writer.isOpen = false) (visits : List Visit)
    (w : ω) :
    let ran := visitAll d log now started visits s w
    ran.1.1 = visits.map Visit.outcome ∧ ran.1.2.writer = s.writer ∧
      ∀ K : ω → Prop, (∀ record, Leaves K (log record) fun _ => K) → Leaves K now (fun _ => K) →
        K w → K ran.2 := by
  induction visits generalizing s w with
  | nil => exact ⟨rfl, rfl, fun _ _ _ holds => holds⟩
  | cons v visits ih =>
      intro ran
      let first := visit d log now started v s w
      have outcome : first.1.1 = v.outcome := (triple_visit_closed shut v s w ⟨rfl, rfl, rfl⟩).1
      have stays (K : ω → Prop) (logs : ∀ record, Leaves K (log record) fun _ => K)
          (looks : Leaves K now fun _ => K)
          (holds : K w) : first.1.2.writer = s.writer ∧ K first.2 :=
        ((upholds_closed shut (fun _ _ kept => kept) logs looks v.path).preserves.run s w
          ⟨trivial, rfl, holds⟩).2
      have same : first.1.2.writer = s.writer :=
        (stays (fun _ => True) (fun _ _ _ => trivial) (fun _ _ => trivial) trivial).1
      obtain ⟨outcomes, later, keeps⟩ := ih (s := first.1.2) (same ▸ shut) first.2
      refine ⟨?_, later.trans same,
        fun K logs looks holds => keeps K logs looks (stays K logs looks holds).2⟩
      rw [List.map_cons, ← outcome, ← outcomes]
      rfl

/-! ### All runs -/

/-- A session in any state is run over recordings that cannot be opened, then over one that can, and
then over any others:

* the first ones leave everything as it was;
* the next one comes to what it comes to without them, and closes the writer;
* each of the others comes to what its own recording says, and no device is used for any of
  them: the writer keeps its state, and in the surroundings is kept what logging and looking at
  the clock keep. -/
theorem visitAll_by_first_opening (d : Device (StateM ω) δ) (log : Record → StateM ω Unit)
    (now : StateM ω Nat) (started : Nat) {missing : List Visit} (h : ∀ v ∈ missing, ¬v.Opens)
    (s : Session δ) (w : ω) :
    visitAll d log now started missing s w = ((missing.map Visit.outcome, s), w) ∧
      ∀ (first : Visit) (others : List Visit), first.Opens →
        let alone := visit d log now started first s w
        let ran := visitAll d log now started (missing ++ first :: others) s w
        ran.1.1 = missing.map Visit.outcome ++ alone.1.1 :: others.map Visit.outcome ∧
          alone.1.2.writer.isOpen = false ∧ ran.1.2.writer = alone.1.2.writer ∧
          ∀ K : ω → Prop, (∀ record, Leaves K (log record) fun _ => K) → Leaves K now (fun _ => K) →
            K alone.2 → K ran.2 := by
  have before : visitAll d log now started missing s w = _ := visitAll_of_not_opens h s w
  refine ⟨before, ?_⟩
  intro first others opens alone ran
  have shut : alone.1.2.writer.isOpen = false := isOpen_visit opens s w
  obtain ⟨outcomes, writer, keeps⟩ := visitAll_of_closed shut others alone.2
  have parts : ran = _ := visitAll_append missing (first :: others) s w
  simp only [before, visitAll_cons] at parts
  rw [parts]
  exact ⟨by rw [outcomes], shut, writer, keeps⟩

/-- The text of a frame without regions. -/
def bareText : List Char := "\x7b\"index\":0\x7d".toList

/-- A recording of that frame. -/
def bareVisit (path : String) : Visit := ⟨path, .ok (Text.encode bareText)⟩

/-- A session that nothing was done with, over an empty memory. -/
def fresh : Session Memory := ⟨{}, {}, ⟨true, {}⟩, .new⟩

theorem visit_bareVisit (path : String) :
    (visit Memory.device (fun _ => pure ()) (pure 0) 0 (bareVisit path) fresh ()).1.1 =
        .ok ⟨1, 0, 0, false⟩ ∧
      (visit Memory.device (fun _ => pure ()) (pure 0) 0 (bareVisit path) fresh
          ()).1.2.writer.device.bytes =
        Text.encode "\x7b\"index\":0,\"regions\":[]\x7d\n".toList := by
  obtain ⟨outcome, stored, -⟩ :=
    run_refines (fun _ => pure ()) (pure 0) 0 path bareText none none {} {} .new ()
  have alone : runOutcome none none bareText = .ok ⟨1, 0, 0, false⟩ := by decide +kernel
  have kept : clip none (labeledBytes (workableFrames (heldLines bareText))) =
      Text.encode "\x7b\"index\":0,\"regions\":[]\x7d\n".toList := by decide +kernel
  constructor
  · rw [bareVisit, visit_encode, fresh, outcome, alone]
  · rw [bareVisit, visit_encode, fresh, stored, kept]

/-- A run over a file that is missing, one over a frame, and with the writer closed one over a frame
and one over a blank line. -/
theorem visitAll_over_four :
    let missing : List Visit := [⟨"a", .error .noEntry⟩]
    let others : List Visit := [bareVisit "c", ⟨"d", .ok (Text.encode ['\n'])⟩]
    let ran := visitAll Memory.device (fun _ => pure ()) (pure 0) 0
      (missing ++ bareVisit "b" :: others) fresh ()
    (∀ v ∈ missing, ¬v.Opens) ∧ (bareVisit "b").Opens ∧
      ran.1.1 =
        [.error (.transfer (.unreadable "a" .noEntry)), .ok ⟨1, 0, 0, false⟩,
          .error (.transfer .closed), .ok {}] ∧
      ran.1.2.writer.device.bytes = Text.encode "\x7b\"index\":0,\"regions\":[]\x7d\n".toList := by
  intro missing others ran
  have absent : ∀ v ∈ missing, ¬v.Opens := by
    rintro v mem ⟨text, found⟩
    rw [List.mem_singleton.1 mem] at found
    cases found
  have opens : (bareVisit "b").Opens := ⟨bareText, rfl⟩
  obtain ⟨outcomes, -, writer, -⟩ :=
    (visitAll_by_first_opening Memory.device (fun _ => pure ()) (pure 0) 0 absent
    fresh ()).2 (bareVisit "b") others opens
  obtain ⟨alone, stored⟩ := visit_bareVisit "b"
  have refused : missing.map Visit.outcome = [.error (.transfer (.unreadable "a" .noEntry))] := by
    decide +kernel
  have later : others.map Visit.outcome = [.error (.transfer .closed), .ok {}] := by decide +kernel
  rw [alone, refused, later] at outcomes
  refine ⟨absent, opens, ?_, ?_⟩
  · rw [outcomes]
    rfl
  · rw [writer, stored]

end Session

end FaceAnnotator
