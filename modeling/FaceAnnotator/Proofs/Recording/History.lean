import FaceAnnotator.FileSystem.Operations
import FaceAnnotator.Proofs.Text.Lines
import FaceAnnotator.Proofs.Text.Numbering
import FaceAnnotator.Proofs.Text.Utf8
import FaceAnnotator.Recording.LineReader
import Mathlib.Data.List.Induction
/-!
# FaceAnnotator.Proofs.Recording.History

**A reader answers by its history.**

A reader is asked for one thing after another, and between two requests any file may become another.
Which text it holds is told by the requests alone: that of the last opening that succeeded, unless
it was closed since (`held`). `answer_by_history` says that every answer is the one that belongs to
the text that is held, however much was read of it before and whatever became of its file.

The state of a reader at work follows its history step by step (`Desk.Follows`). A history is read
backwards, from its last request to its first.
-/

namespace FaceAnnotator

/-! ### The lines that hold frames -/

/-- The entries are the lines of a text that are not blank, in order, each with the number of line
feeds before it and one. -/
structure IsNumbering (text : List Char) (entries : List (Nat × List Char)) : Prop where
  ordered : entries.Pairwise fun a b => a.1 < b.1
  mem_iff : ∀ number line, (number, line) ∈ entries ↔
    ∃ place, number = place + 1 ∧ Text.IsLine text place line ∧ ∃ c ∈ line, Text.isBlank c = false

theorem mem_numberedFrom_iff {first number : Nat} {lines : List (List Char)} {line : List Char} :
    (number, line) ∈ numberedFrom first lines ↔
      ∃ place, number = first + place ∧ lines[place]? = some line := by
  induction lines generalizing first with
  | nil => simp [numberedFrom]
  | cons l lines ih =>
      rw [numberedFrom, List.mem_cons, ih, Prod.mk.injEq]
      constructor
      · rintro (⟨rfl, rfl⟩ | ⟨place, rfl, found⟩)
        · exact ⟨0, rfl, rfl⟩
        · exact ⟨place + 1, by omega, found⟩
      · rintro ⟨place, rfl, found⟩
        cases place with
        | zero => exact .inl ⟨rfl, (Option.some.inj found).symm⟩
        | succ place => exact .inr ⟨place, by omega, found⟩

theorem pairwise_numberedFrom (first : Nat) (lines : List (List Char)) :
    (numberedFrom first lines).Pairwise fun a b => a.1 < b.1 := by
  induction lines generalizing first with
  | nil => exact .nil
  | cons line lines ih =>
      refine .cons ?_ (ih (first + 1))
      rintro ⟨number, other⟩ mem
      obtain ⟨place, rfl, -⟩ := mem_numberedFrom_iff.1 mem
      show first < first + 1 + place
      omega

theorem isNumbering_frameLines (text : List Char) : IsNumbering text (frameLines text) where
  ordered := (pairwise_numberedFrom 1 _).filter _
  mem_iff := by
    intro number line
    have filled : (!line.all Text.isBlank) = true ↔ ∃ c ∈ line, Text.isBlank c = false := by simp
    rw [frameLines, List.mem_filter, mem_numberedFrom_iff, ← filled]
    constructor
    · rintro ⟨⟨place, rfl, found⟩, some⟩
      exact ⟨place, Nat.add_comm 1 place, Text.getElem?_lines_iff.1 found, some⟩
    · rintro ⟨place, rfl, found, some⟩
      exact ⟨⟨place, Nat.add_comm place 1, Text.getElem?_lines_iff.2 found⟩, some⟩

/-! ### Files that hold a text -/

namespace FileSystem

/-- A path leads to a file that spells a text. -/
def Spells (fs : FileSystem) (path : String) (text : List Char) : Prop :=
  ∃ location, fs.resolve .reading (Path.mk path) = .ok (.file location) ∧
    fs.find? location = some (.file (Text.encode text))

/-- The text of the file at a path. -/
def text (fs : FileSystem) (path : String) : Except SystemError (List Char) :=
  LineReader.textOf (fs.contents (Path.mk path))

theorem contents_eq_ok_iff {fs : FileSystem} {path : Path} {bytes : List UInt8} :
    fs.contents path = .ok bytes ↔
      ∃ location, fs.resolve .reading path = .ok (.file location) ∧
        fs.find? location = some (.file bytes) := by
  unfold contents
  cases fs.resolve .reading path with
  | error cause => simp
  | ok target =>
      cases target with
      | directory location => simp
      | vacant location name => simp
      | file location =>
          simp only [Except.ok.injEq, Target.file.injEq, exists_eq_left']
          split <;> simp_all

theorem text_eq_ok_iff {fs : FileSystem} {path : String} {text : List Char} :
    fs.text path = .ok text ↔ fs.Spells path text := by
  unfold FileSystem.text Spells
  rw [← contents_eq_ok_iff]
  cases fs.contents (Path.mk path) with
  | error cause => simp [LineReader.textOf]
  | ok bytes =>
      simp only [LineReader.textOf, Except.ok.injEq]
      constructor
      · intro found
        split at found
        · rename_i decoded
          cases found
          exact (Text.encode_of_decode decoded).symm
        · contradiction
      · rintro rfl
        rw [Text.decode_encode]

end FileSystem

namespace LineReader

/-! ### A reader at work -/

/-- What can happen to a reader. -/
inductive Request where
  /-- It is to open the recording at a path. -/
  | connect (path : String)
  /-- It is asked for the frames. What is left of those it was asked for before is forgotten. -/
  | frames
  /-- The next one of the frames that it was asked for is read. -/
  | next
  /-- It is to close the recording. -/
  | close
  /-- Something else changes the files. -/
  | change (files : FileSystem)

/-- What comes back. -/
inductive Response where
  | overview (outcome : Except RecordingFault Overview)
  | item (found : Option (Except RecordingFault Frame))
  | done

/-- A reader, what is left of the frames that it was last asked for, and the files as they are. -/
structure Desk where
  reader : LineReader
  feed : List (Unit → Except RecordingFault Frame)
  files : FileSystem

/-- What comes back on a request, and how it leaves the reader. -/
def Desk.answer (d : Desk) : Request → Response × Desk
  | .connect path =>
    let (reader, outcome, _) := d.reader.connect path (d.files.contents (Path.mk path))
    (.overview outcome, ⟨reader, [], d.files⟩)
  | .frames => (.done, ⟨d.reader, d.reader.items, d.files⟩)
  | .next =>
    match d.feed with
    | [] => (.item none, d)
    | read :: others => (.item (some (read ())), ⟨d.reader, others, d.files⟩)
  | .close => (.done, ⟨d.reader.close, [], d.files⟩)
  | .change files => (.done, ⟨d.reader, d.feed, files⟩)

/-- A new reader after some requests. -/
def after (files : FileSystem) (requests : List Request) : Desk :=
  requests.foldl (fun d request => (d.answer request).2) ⟨{}, [], files⟩

/-! ### What a history tells -/

/-- The files at the end of a history. -/
def filesAfter (files : FileSystem) : List Request → FileSystem
  | [] => files
  | .change others :: _ => others
  | _ :: earlier => filesAfter files earlier

/-- The text that the last successful opening found, if nothing was closed since. -/
def held (files : FileSystem) : List Request → Option (List Char)
  | [] => none
  | .close :: _ => none
  | .connect path :: earlier =>
    match (filesAfter files earlier).text path with
    | .ok text => some text
    | .error _ => held files earlier
  | _ :: earlier => held files earlier

/-- How many of the frames were read since they were last asked for; nothing if something else
was asked since. -/
def drawn : List Request → Option Nat
  | .frames :: _ => some 0
  | .next :: earlier => (drawn earlier).map (· + 1)
  | .change _ :: earlier => drawn earlier
  | _ => none

/-- What is to be read while a text is held: each line that is not blank for itself. -/
def itemsOf : Option (List Char) → List (Except RecordingFault Frame)
  | none => [.error .notOpen]
  | some text =>
    (frameLines text).map fun (number, line) => (Frame.ofJson line).mapError (.badLine number)

/-- A reader is where its history says. -/
structure Desk.Follows (d : Desk) (files : FileSystem) (history : List Request) : Prop where
  lines : d.reader.lines = (held files history).map frameLines
  feed : d.feed = (drawn history).elim [] fun n => d.reader.items.drop n
  files : d.files = filesAfter files history

theorem readLine_eq_mapError (number : Nat) (line : List Char) :
    readLine number line = (Frame.ofJson line).mapError (.badLine number) := by
  unfold readLine
  cases Frame.ofJson line <;> rfl

theorem frames_of_lines {r : LineReader} {text : Option (List Char)}
    (h : r.lines = text.map frameLines) :
    r.frames = itemsOf text := by
  unfold frames items itemsOf
  cases text with
  | none => rw [h]; rfl
  | some text => simp [h, Function.comp_def, readLine_eq_mapError]

/-- An opening succeeds exactly if there is a text, and then the text is held. -/
theorem connect_text (r : LineReader) (files : FileSystem) (path : String) :
    r.connect path (files.contents (Path.mk path)) =
      match files.text path with
      | .error cause => (r, .error (.unreadable path cause), [])
      | .ok text =>
        (⟨some (frameLines text)⟩, .ok ⟨(frameLines text).length, path⟩,
          [openedRecord path (frameLines text).length]) :=
  rfl

/-- The next item is the first one that is left, if any is. -/
theorem Desk.answer_next (d : Desk) :
    d.answer .next = (.item (d.feed.head?.map fun read => read ()),
      ⟨d.reader, d.feed.tail, d.files⟩) := by
  obtain ⟨reader, feed, files⟩ := d
  cases feed <;> rfl

/-- A request takes a reader to where the longer history says. -/
theorem Desk.Follows.answer {d : Desk} {files : FileSystem} {history : List Request}
    (h : d.Follows files history) (request : Request) :
    (d.answer request).2.Follows files (request :: history) := by
  cases request with
  | connect path =>
      have lines : (d.answer (.connect path)).2.reader.lines =
          (held files (.connect path :: history)).map frameLines := by
        simp only [Desk.answer, connect_text, held, ← h.files]
        cases d.files.text path with
        | error cause => exact h.lines
        | ok text => rfl
      exact ⟨lines, rfl, h.files⟩
  | frames => exact ⟨h.lines, rfl, h.files⟩
  | next =>
      rw [answer_next]
      refine ⟨h.lines, ?_, h.files⟩
      -- One item less is left, and one more was read.
      change d.feed.tail = _
      rw [h.feed, drawn]
      cases drawn history with
      | none => rfl
      | some n => exact List.tail_drop
  | close => exact ⟨rfl, rfl, h.files⟩
  | change others => exact ⟨h.lines, h.feed, rfl⟩

theorem after_concat (files : FileSystem) (requests : List Request) (request : Request) :
    after files (requests ++ [request]) = ((after files requests).answer request).2 := by
  simp [after]

/-- After any requests a reader is where its history says. -/
theorem follows_after (files : FileSystem) (requests : List Request) :
    (after files requests).Follows files requests.reverse := by
  induction requests using List.reverseRecOn with
  | nil => exact ⟨rfl, rfl, rfl⟩
  | append_singleton requests request ih =>
      rw [after_concat, List.reverse_append, List.reverse_singleton, List.singleton_append]
      exact ih.answer request

/-- The next item is the one that the history says. -/
theorem Desk.Follows.item_next {d : Desk} {files : FileSystem} {history : List Request}
    (h : d.Follows files history) :
    (d.answer .next).1 =
      .item ((drawn history).bind fun n => (itemsOf (held files history))[n]?) := by
  rw [answer_next, h.feed]
  cases drawn history with
  | none => rfl
  | some n => simp [← frames_of_lines h.lines, frames]

/-! ### Every answer -/

/-- After any requests to a new reader, with any changes of the files between them:

* the next item is the one at the place that was reached among the items of the text that is held,
  or the single fault of a reader that holds none;
* an opening announces as many items as there are, if the path leads to a file that spells a text;
  otherwise it is answered with the path and a cause, and the reader stays as it was;
* the items of a text are made of its lines that are not blank, each with its number in the text. -/
theorem answer_by_history (files : FileSystem) (requests : List Request) :
    ((after files requests).answer .next).1 =
        .item ((drawn requests.reverse).bind fun n => (itemsOf (held files requests.reverse))[n]?) ∧
      (∀ path,
        (∀ text, (filesAfter files requests.reverse).Spells path text →
          ((after files requests).answer (.connect path)).1 =
            .overview (.ok ⟨(itemsOf (some text)).length, path⟩) ∧
          held files (.connect path :: requests.reverse) = some text) ∧
        ((¬∃ text, (filesAfter files requests.reverse).Spells path text) →
          (∃ cause, ((after files requests).answer (.connect path)).1 =
            .overview (.error (.unreadable path cause))) ∧
          ((after files requests).answer (.connect path)).2.reader = (after files requests).reader ∧
          held files (.connect path :: requests.reverse) = held files requests.reverse)) ∧
      ∀ text, IsNumbering text (frameLines text) := by
  have state := follows_after files requests
  refine ⟨state.item_next, fun path => ⟨fun text found => ?_, fun missing => ?_⟩,
    isNumbering_frameLines⟩
  · have read := FileSystem.text_eq_ok_iff.2 found
    simp only [Desk.answer, connect_text, state.files, held, read, itemsOf, List.length_map,
      and_self]
  · cases read : (filesAfter files requests.reverse).text path with
    | ok text => exact absurd ⟨text, FileSystem.text_eq_ok_iff.1 read⟩ missing
    | error cause =>
        simp only [Desk.answer, connect_text, state.files, held, read, and_self, and_true]
        exact ⟨cause, rfl⟩

/-- A tree with a directory and a recording, which has a blank line and then one that is no
frame. -/
def twoLineTree : FileSystem where
  entries := [(["a"], .file (Text.encode ['\n', 'x'])), (["d"], .directory)]

theorem spells_twoLineTree : twoLineTree.Spells "a" ['\n', 'x'] := by
  refine FileSystem.contents_eq_ok_iff.1 ?_
  have found : (twoLineTree.contents (Path.mk "a")).toOption = some (Text.encode ['\n', 'x']) := by
    decide +kernel
  cases read : twoLineTree.contents (Path.mk "a") with
  | error cause => rw [read] at found; cases found
  | ok bytes => rw [read] at found; rw [Option.some.inj found]

theorem not_spells_twoLineTree : ¬∃ text, twoLineTree.Spells "d" text := by
  rintro ⟨text, location, resolved, found⟩
  have none : (twoLineTree.contents (Path.mk "d")).toOption = none := by decide +kernel
  rw [FileSystem.contents_eq_ok_iff.2 ⟨location, resolved, found⟩] at none
  cases none

theorem frameLines_twoLineTree : frameLines ['\n', 'x'] = [(2, ['x'])] := by
  have second : Text.lines ['x'] = [['x']] :=
    Text.lines_of_all_inLine (by simp [Text.inLine]) (List.cons_ne_nil _ _)
  have both : Text.lines ([] ++ '\n' :: ['x']) = [] :: Text.lines ['x'] :=
    Text.lines_append_newline (fun _ mem => absurd mem List.not_mem_nil) ['x']
  rw [second] at both
  rw [frameLines]
  simp only [List.nil_append] at both
  rw [both]
  decide

/-- The recording stays open when a directory cannot be opened, and its file can go away. -/
theorem answer_by_history_of_twoLineTree :
    ((after twoLineTree []).answer (.connect "a")).1 = .overview (.ok ⟨1, "a"⟩) ∧
      ((after twoLineTree [.connect "a", .connect "d", .frames, .change {}]).answer .next).1 =
        .item (some ((Frame.ofJson ['x']).mapError (.badLine 2))) := by
  have opened := ((answer_by_history twoLineTree []).2.1 "a").1 _ spells_twoLineTree
  have failed := ((answer_by_history twoLineTree [.connect "a"]).2.1 "d").2 not_spells_twoLineTree
  have item := (answer_by_history twoLineTree [.connect "a", .connect "d", .frames, .change {}]).1
  have text : held twoLineTree [.connect "d", .connect "a"] = some ['\n', 'x'] :=
    failed.2.2.trans opened.2
  constructor
  · rw [opened.1, itemsOf, frameLines_twoLineTree]
    rfl
  · rw [item]
    show Response.item ((some 0).bind fun n =>
      (itemsOf (held twoLineTree [.connect "d", .connect "a"]))[n]?) = _
    rw [text, itemsOf, frameLines_twoLineTree]
    rfl

end LineReader

end FaceAnnotator
