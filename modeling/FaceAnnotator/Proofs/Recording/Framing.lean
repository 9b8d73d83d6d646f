import FaceAnnotator.Proofs.Frame.Line
import FaceAnnotator.Proofs.Text.Utf8
/-!
# FaceAnnotator.Proofs.Recording.Framing

**Frames that were stored on lines are read line by line, also if the last line is torn.**

A memory that runs full keeps a beginning of the line that did not fit. If what it keeps is text,
the reader finds all whole lines in it, and behind them the frame without its line feed, or a bad
line, or nothing.
-/

namespace FaceAnnotator

open Json

namespace LineWriter

variable {m : Type → Type} [Monad m] {δ : Type}

/-- Writes frames in order until one is not stored, and counts the others. -/
def writeFrames (d : Device m δ) : LineWriter δ → List Frame → m (Nat × LineWriter δ)
  | w, [] => pure (0, w)
  | w, f :: frames => do
    match ← w.write d f with
    | (.error _, w) => pure (0, w)
    | (.ok _, w) =>
      let (count, w) ← writeFrames d w frames
      pure (count + 1, w)

end LineWriter

/-- What may be left of the line of the next frame, if there is one: some of its bytes, but not
all. -/
def IsLeft (left : List UInt8) : Option Frame → Prop
  | none => left = []
  | some f => left <+: f.line ∧ left ≠ f.line

/-- Of a line that does not fit so much is kept that it is not the line. -/
theorem isLeft_of_not_admits {memory : Memory} {f : Frame}
    (before : Admits memory.capacity memory.bytes.length)
    (h : ¬Admits memory.capacity (memory.bytes.length + f.line.length)) :
    ∃ left, clip memory.capacity (memory.bytes ++ f.line) = memory.bytes ++ left ∧
      IsLeft left (some f) := by
  cases capacity : memory.capacity with
  | none =>
      rw [capacity] at h
      exact absurd (admits_none _) h
  | some limit =>
      rw [capacity, admits_some] at before h
      refine ⟨f.line.take (limit - memory.bytes.length), ?_, List.take_prefix _ _, ?_⟩
      · rw [clip, List.take_append, List.take_of_length_le before]
      · intro whole
        have length := congrArg List.length whole
        rw [List.length_take] at length
        omega

/-- A memory holds the lines of the frames that were stored, and what is left of the next one. -/
theorem LineWriter.writeFrames_memory {m : Type → Type} [Monad m] [LawfulMonad m] {memory : Memory}
    (before : Admits memory.capacity memory.bytes.length) (frames : List Frame) :
    ∃ n left, LineWriter.writeFrames (m := m) Memory.device ⟨true, memory⟩ frames =
        pure (n, ⟨true, memory.keep
          (memory.bytes ++ ((frames.take n).flatMap Frame.line ++ left))⟩) ∧
      n ≤ frames.length ∧ IsLeft left frames[n]? := by
  induction frames generalizing memory with
  | nil =>
      refine ⟨0, [], ?_, Nat.le_refl 0, rfl⟩
      simp [writeFrames]
  | cons f frames ih =>
      have step := LineWriter.write_memory (m := m) before f
      rw [writeFrames, step, pure_bind]
      cases misfit : f.misfit memory.capacity memory.bytes.length with
      | some fault =>
          obtain ⟨left, kept, is⟩ :=
            isLeft_of_not_admits before (Frame.not_admits_of_misfit_eq_some misfit)
          refine ⟨0, left, ?_, Nat.zero_le _, is⟩
          simp [outcomeOf, kept]
      | none =>
          have fits := Frame.admits_of_misfit_eq_none misfit
          rw [← List.length_append] at fits
          let next := memory.keep (memory.bytes ++ f.line)
          obtain ⟨n, left, later, le, is⟩ := @ih next (by simpa [next] using fits)
          refine ⟨n + 1, left, ?_, Nat.succ_le_succ le, by simpa using is⟩
          simp only [outcomeOf, clip_of_admits fits]
          rw [show memory.keep (memory.bytes ++ f.line) = next from rfl, later, pure_bind]
          simp [next]

/-! ### Reading -/

theorem encode_ended (frames : List Frame) :
    Text.encode (Text.ended (frames.map Frame.json)) = frames.flatMap Frame.line := by
  induction frames with
  | nil => rfl
  | cons f frames ih => simp [Frame.line, lineEnd, ih]

/-- A text that begins like a frame is not blank. -/
theorem not_blank_of_prefix {f : Frame} {part : List Char} (h : part <+: f.json)
    (some : part ≠ []) :
    part.all Text.isBlank = false := by
  obtain ⟨more, eq⟩ := h
  cases part with
  | nil => exact absurd rfl some
  | cons c part =>
      rw [Frame.json, Frame.flatten_pieces, braced, List.cons_append] at eq
      rw [(List.cons.inj eq).1, List.all_cons]
      rfl

theorem Frame.json_ne_nil (f : Frame) : f.json ≠ [] := by
  rw [json, flatten_pieces]
  exact List.cons_ne_nil _ _

/-- The items of a text of whole frames, and of what stands behind them. -/
theorem items_of_ended (frames : List Frame) {part : List Char}
    (torn : ∃ f : Frame, part <+: f.json) :
    frameLines (Text.ended (frames.map Frame.json) ++ part) =
      numberedFrom 1 (frames.map Frame.json ++ Text.remainder part) := by
  obtain ⟨f, beginning⟩ := torn
  have lines : Text.lines (Text.ended (frames.map Frame.json) ++ part) =
      frames.map Frame.json ++ Text.remainder part := by
    refine Text.lines_ended_append (fun line mem => ?_)
      (f.uncontrolled_json.unbroken.of_prefix beginning)
    obtain ⟨g, -, rfl⟩ := List.mem_map.1 mem
    exact g.uncontrolled_json.unbroken
  rw [← lines]
  refine frameLines_of_not_blank fun line mem => ?_
  rw [lines] at mem
  rcases List.mem_append.1 mem with mem | mem
  · obtain ⟨g, -, rfl⟩ := List.mem_map.1 mem
    exact not_blank_of_prefix List.prefix_rfl g.json_ne_nil
  · unfold Text.remainder at mem
    split at mem
    · cases mem
    · rename_i some
      rw [List.mem_singleton.1 mem]
      exact not_blank_of_prefix beginning (by simpa using some)

theorem Frame.ofJson_of_isFinite {f : Frame} (h : f.isFinite = true) :
    ofJson f.json = .ok f.reread := by
  have reads := f.answers_read
  rw [if_pos h] at reads
  exact reads.document

/-- Whole frames are read one after the other. -/
theorem readLine_numberedFrom {frames : List Frame} (h : ∀ f ∈ frames, f.isFinite = true)
    (number : Nat) :
    ((numberedFrom number (frames.map Frame.json)).map fun (number, line) =>
      LineReader.readLine number line) = frames.map fun f => .ok f.reread := by
  induction frames generalizing number with
  | nil => rfl
  | cons f frames ih =>
      have first := Frame.ofJson_of_isFinite (h f List.mem_cons_self)
      have others := ih (fun g mem => h g (List.mem_cons_of_mem f mem)) (number + 1)
      rw [List.map_cons, numberedFrom, List.map_cons, others, List.map_cons]
      simp [LineReader.readLine, first]

/-- What is to be read behind whole frames, given the next frame and what is left of its line. -/
def IsTornItem (number : Nat) (left : List UInt8) (items : List (Except RecordingFault Frame)) :
    Option Frame → Prop
  | none => items = []
  | some f =>
    if left = [] then items = []
    else if left = Text.encode f.json then items = [.ok f.reread]
    else ∃ cause, items = [.error (.badLine number cause)]

/-- What is left of a line is no more than the text of its frame. -/
theorem prefix_json_of_isLeft {f : Frame} {part : List Char}
    (h : IsLeft (Text.encode part) (some f)) :
    part <+: f.json := by
  obtain ⟨beginning, proper⟩ := h
  have whole : f.line = Text.encode (f.json ++ ['\n']) := by simp [Frame.line, lineEnd]
  rw [whole] at beginning proper
  rcases List.prefix_concat_iff.1 (Text.prefix_of_encode_prefix beginning) with rfl | inside
  · exact absurd rfl proper
  · exact inside

theorem isTornItem_remainder {next : Option Frame} {part : List Char} (number : Nat)
    (finite : ∀ f ∈ next, f.isFinite = true) (left : IsLeft (Text.encode part) next) :
    IsTornItem number (Text.encode part)
      ((numberedFrom number (Text.remainder part)).map fun (number, line) =>
        LineReader.readLine number line) next := by
  cases next with
  | none =>
      obtain rfl : part = [] := Text.encode_injective left
      rfl
  | some f =>
      have beginning := prefix_json_of_isLeft left
      by_cases nothing : Text.encode part = []
      · rw [IsTornItem, if_pos nothing]
        obtain rfl : part = [] := Text.encode_injective nothing
        rfl
      have single : Text.remainder part = [part] := by
        rw [Text.remainder, if_neg]
        intro empty
        rw [List.isEmpty_iff] at empty
        exact nothing (by rw [empty, Text.encode_nil])
      rw [IsTornItem, if_neg nothing, single, numberedFrom, numberedFrom, List.map_cons,
        List.map_nil]
      by_cases whole : Text.encode part = Text.encode f.json
      · rw [if_pos whole, Text.encode_injective whole]
        simp only [LineReader.readLine, Frame.ofJson_of_isFinite (finite f rfl)]
      · obtain ⟨more, eq⟩ := beginning
        have proper : more ≠ [] := by
          rintro rfl
          rw [List.append_nil] at eq
          exact whole (by rw [eq])
        obtain ⟨complaint, refused⟩ := f.refuses_beginning eq.symm proper
        rw [if_neg whole]
        exact ⟨complaint, by simp only [LineReader.readLine, refused]⟩

/-- A text that begins with whole frames goes on with what its bytes go on with. -/
theorem exists_part_of_decode {frames : List Frame} {left : List UInt8} {text : List Char}
    (h : Text.decode (frames.flatMap Frame.line ++ left) = some text) :
    ∃ part, text = Text.ended (frames.map Frame.json) ++ part ∧ Text.encode part = left := by
  have bytes := Text.encode_of_decode h
  rw [← encode_ended] at bytes
  obtain ⟨part, rfl⟩ := Text.prefix_of_encode_prefix ⟨left, bytes.symm⟩
  rw [Text.encode_append] at bytes
  exact ⟨part, rfl, List.append_cancel_left bytes⟩

theorem torn_of_isLeft {next : Option Frame} {part : List Char}
    (h : IsLeft (Text.encode part) next) :
    ∃ f : Frame, part <+: f.json := by
  cases next with
  | none =>
      obtain rfl : part = [] := Text.encode_injective h
      exact ⟨default, List.nil_prefix⟩
  | some f => exact ⟨f, prefix_json_of_isLeft h⟩

/-- A text is opened with one item for each line that is not blank. -/
theorem LineReader.connect_of_decode {bytes : List UInt8} {text : List Char}
    (h : Text.decode bytes = some text) (r : LineReader) (path : String) :
    ∃ s, r.connect path (.ok bytes) =
        (s, .ok ⟨s.frames.length, path⟩, [openedRecord path s.frames.length]) ∧
      s.frames = (frameLines text).map fun (number, line) => readLine number line := by
  have items : (⟨some (frameLines text)⟩ : LineReader).frames =
      (frameLines text).map fun (number, line) => readLine number line := by
    simp [frames, LineReader.items]
  refine ⟨⟨some (frameLines text)⟩, ?_, items⟩
  rw [items, List.length_map]
  simp [connect, textOf, h]

/-- The text of a frame fills a line, and no part of it passes for a frame. Frames that were written
in order until one did not fit are all read back from what is there then, if that is text; and of
the one that did not fit the reader sees nothing, the frame itself if only its line feed is missing,
or a bad line. -/
theorem LineReader.reads_what_was_stored :
    (∀ f : Frame, Text.lines (f.json ++ ['\n']) = [f.json] ∧
      ∀ part more, f.json = part ++ more → more ≠ [] →
        ∃ complaint, Frame.ofJson part = .error complaint) ∧
    ∀ (frames : List Frame) (capacity : Option Nat) (n : Nat) (w : LineWriter Memory),
      (∀ f ∈ frames, f.isFinite = true) →
      LineWriter.writeFrames (m := Id) Memory.device ⟨true, { capacity := capacity }⟩ frames =
        (n, w) →
      (Text.decode w.device.bytes).isSome = true →
        ∃ left, w.device.bytes = (frames.take n).flatMap Frame.line ++ left ∧ n ≤ frames.length ∧
          ∀ (r : LineReader) (path : String), ∃ s behind,
            r.connect path (.ok w.device.bytes) =
              (s, .ok ⟨s.frames.length, path⟩, [openedRecord path s.frames.length]) ∧
            s.frames = (frames.take n).map (fun f => .ok f.reread) ++ behind ∧
            (∀ f ∈ frames, Frame.ofJson f.json = .ok f.reread) ∧
            IsTornItem (n + 1) left behind frames[n]? := by
  refine ⟨fun f => ⟨?_, fun part more => f.refuses_beginning⟩,
    fun frames capacity n w finite written => ?_⟩
  · have line := Text.lines_append_newline f.uncontrolled_json.unbroken.inLine []
    rw [line, f.uncontrolled_json.unbroken.withoutReturn, Text.lines_nil]
  · have empty : Admits capacity 0 := fun _ _ => Nat.zero_le _
    obtain ⟨n, left, stored, le, is⟩ :=
      @LineWriter.writeFrames_memory Id _ _ { capacity := capacity } empty frames
    cases written.symm.trans stored
    intro spelled
    obtain ⟨text, spelled⟩ := Option.isSome_iff_exists.1 spelled
    refine ⟨left, rfl, le, fun r path => ?_⟩
    obtain ⟨part, rfl, rfl⟩ := exists_part_of_decode spelled
    have all (f : Frame) (mem : f ∈ frames) := Frame.ofJson_of_isFinite (finite f mem)
    have next (f : Frame) (mem : f ∈ frames[n]?) := finite f (List.mem_of_getElem? mem)
    have taken (f : Frame) (mem : f ∈ frames.take n) := finite f (List.mem_of_mem_take mem)
    have count : 1 + ((frames.take n).map Frame.json).length = n + 1 := by
      rw [List.length_map, List.length_take]
      omega
    obtain ⟨s, opened, items⟩ := r.connect_of_decode spelled path
    refine ⟨s, _, opened, ?_, all, isTornItem_remainder (n + 1) next is⟩
    rw [items, items_of_ended _ (torn_of_isLeft is), numberedFrom_append, List.map_append,
      readLine_numberedFrom taken, count]

/-- Two frames, the second one with line breaks of all kinds in its strings. -/
def twoFrames : List Frame :=
  [⟨7, []⟩, ⟨8, [⟨0, 0, 1, 1, [⟨"a\nb\r\n", "\u0085", [], some "\u2028"⟩]⟩]⟩]

/-- There is room for the first line, and for the second one up to the middle of a key. -/
def twoStored : Nat × LineWriter Memory :=
  LineWriter.writeFrames (m := Id) Memory.device ⟨true, { capacity := some 113 }⟩ twoFrames

theorem LineReader.reads_torn_line :
    (∀ f ∈ twoFrames, f.isFinite = true) ∧ (Text.decode twoStored.2.device.bytes).isSome = true ∧
    ∀ (r : LineReader) (path : String), ∃ s cause,
      r.connect path (.ok twoStored.2.device.bytes) = (s, .ok ⟨2, path⟩, [openedRecord path 2]) ∧
        s.frames = [.ok ⟨7, []⟩, .error (.badLine 2 cause)] := by
  have finite : ∀ f ∈ twoFrames, f.isFinite = true := by decide
  have kept : twoStored.2.device.bytes =
      Text.encode ((twoFrames.flatMap fun f => f.json ++ ['\n']).take 113) := by decide +kernel
  have spelled : (Text.decode twoStored.2.device.bytes).isSome = true := by
    rw [kept, Text.decode_encode]
    rfl
  have one : twoStored.1 = 1 := by decide +kernel
  have size : twoStored.2.device.bytes.length = 113 := by decide +kernel
  have whole : ((twoFrames.take 1).flatMap Frame.line).length = 25 := by decide +kernel
  have long : (Text.encode (Frame.json twoFrames[1])).length = 132 := by decide +kernel
  have written :
      LineWriter.writeFrames (m := Id) Memory.device ⟨true, { capacity := some 113 }⟩ twoFrames =
        (1, twoStored.2) := by
    rw [← one, Prod.mk.eta, twoStored]
  refine ⟨finite, spelled, fun r path => ?_⟩
  obtain ⟨left, bytes, -, reads⟩ :=
    reads_what_was_stored.2 twoFrames (some 113) 1 twoStored.2 finite written spelled
  obtain ⟨s, behind, opened, items, -, torn⟩ := reads r path
  have part : left.length = 88 := by
    rw [bytes, List.length_append, whole] at size
    omega
  have torn : IsTornItem 2 left behind (some twoFrames[1]) := torn
  rw [IsTornItem, if_neg (by rintro rfl; cases part), if_neg (by rintro rfl; omega)] at torn
  obtain ⟨cause, rfl⟩ := torn
  have count : s.frames.length = 2 := by rw [items]; rfl
  rw [count] at opened
  exact ⟨s, cause, opened, items⟩

end FaceAnnotator
