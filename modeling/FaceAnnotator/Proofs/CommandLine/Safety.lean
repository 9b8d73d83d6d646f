import FaceAnnotator.Proofs.CommandLine.Paths
import FaceAnnotator.Proofs.Recording.Output
import FaceAnnotator.Proofs.Recording.Storage
/-!
# FaceAnnotator.Proofs.CommandLine.Safety

**When a command leaves its input as it was.**

A command that passes validation keeps its input unless it *endangers* it: the output can be opened,
and its path reaches the location of the input once missing names are taken for directories
(`Endangers`). That is told by the files as they were before the command, and it is exact: an
endangered input that holds anything is lost (`input_kept_iff`).

Validation lets that happen in two ways only. The location of the input is too long to be named, or
there is a dead link on the way to the output, which leads somewhere as soon as the directories for
the output are made.
-/

namespace FaceAnnotator

open FileSystem CommandLine

/-- An output was opened, and its path reaches a location. -/
def Endangers (fs : FileSystem) (out : Option String)
    (outcome : Except RecordingFault (Output Handle)) (location : Location) : Prop :=
  outcome.isOk ∧ ∃ path ∈ out, fs.Reaches (fs.origin ⟨path⟩) (Path.segments ⟨path⟩) location

section opened

variable {before after : FileSystem} {out : Option String}
  {outcome : Except RecordingFault (Output Handle)} {location : Location} {bytes : List UInt8}

/-- An opened output either is another file than one that was there, or is that file, which has
lost its bytes. -/
theorem Opened.cases (h : Opened before out after outcome)
    (found : before.find? location = some (.file bytes)) :
    (¬Endangers before out outcome location ∧ after.find? location = some (.file bytes) ∧
        ∀ output, outcome = .ok output → Elsewhere location bytes output after) ∨
      Endangers before out outcome location ∧ after.find? location = some (.file []) := by
  cases outcome with
  | error cause =>
      exact .inl ⟨fun danger => (nomatch danger.1), h _ _ found, fun _ eq => (nomatch eq)⟩
  | ok output =>
      cases output with
      | console =>
          obtain ⟨rfl, rfl⟩ := h
          refine .inl ⟨?_, found, ?_⟩
          · rintro ⟨-, path, none, -⟩
            cases none
          · rintro _ ⟨⟩
            exact ⟨fun _ eq => (nomatch eq), found⟩
      | file handle =>
          obtain ⟨path, to_path, grown, reaches, keeps, rfl⟩ := h
          -- What is opened is told by where it leads, and a path leads to one place only.
          by_cases here : handle.location = location
          · subst here
            have inside : handle.location ≠ [] := by
              intro root
              rw [root, find?_root] at found
              cases found
            refine .inr ⟨⟨rfl, path, to_path, reaches⟩, ?_⟩
            rw [find?_put, if_pos ⟨rfl, inside⟩]
          · have kept : (grown.put handle.location (.file [])).find? location =
                some (.file bytes) := by
              rw [find?_put, if_neg fun same => here same.1]
              exact keeps _ _ found
            refine .inl ⟨?_, kept, ?_⟩
            · rintro ⟨-, other, to_other, reaches'⟩
              cases to_path
              cases to_other
              exact here (reaches.unique reaches')
            · rintro _ ⟨⟩
              refine ⟨?_, kept⟩
              rintro _ ⟨⟩
              exact here

/-- In files that have grown a path still leads to the file that it led to, if it leads to any. -/
theorem contents_of_grows {path : Path} {held : List UInt8} (grows : Grows before after)
    (named : before.resolve .reading path = .ok (.file location))
    (holds : after.find? location = some (.file held)) {found : List UInt8}
    (h : after.contents path = .ok found) : found = held := by
  obtain ⟨reaches, -⟩ := reaches_of_walk (walk_of_resolve named)
  unfold contents at h
  split at h
  · cases h
  · cases h
  · cases h
  · rename_i other resolved
    obtain ⟨later, -⟩ := reaches_of_walk (walk_of_resolve resolved)
    have from_here : after.origin path = before.origin path := by rw [origin, origin, grows.cwd]
    rw [from_here] at later
    have there : other = location := (later.of_grows grows).unique reaches
    rw [there, holds] at h
    cases h
    rfl

end opened

/-! ### Running a command -/

namespace CommandLine

section run

variable {ω φ : Type} {h : Host (StateM ω) φ} {log : Record → StateM ω Unit} {a : Arguments}
  {R : LineReader → Prop} {W : LineWriter (Buffered (Output φ)) → ω → Prop} {fed : Prop}

/-- A run into an output preserves what the operations of the surroundings preserve. -/
theorem runInto_upholds {output : Output φ}
    (upholds : Session.Upholds (fun path => h.contents ⟨path⟩) (buffered h.outputDevice) log h.now
      a.input R W fed)
    (abandons : ∀ v, Leaves (W v) (v.abandon (buffered h.outputDevice)) fun v => W v)
    (fresh : R {}) :
    Leaves (W ⟨true, ⟨[], output⟩⟩) (runInto h log a output) fun _ w => ∃ v, W v w := by
  refine .bind (upholds.now _) fun started => ?_
  refine .bind (Q := fun ran => W ran.2.writer)
    (fun w holds => (upholds.preserves.run _ w ⟨fresh, holds⟩).2) fun ran => ?_
  exact .bind (abandons ran.2.writer) fun v => .done fun _ holds => ⟨v, holds⟩

end run

open Session (KeepsFiles)

section quiet

variable {φ : Type} {h : Host (StateM World) φ} {log : Record → StateM World Unit}

theorem keepsFiles_logAll (quiet : ∀ record, KeepsFiles (log record)) (records : List Record) :
    KeepsFiles (logAll log records) := by
  induction records with
  | nil => exact .done ()
  | cons record records ih => exact (quiet record).bind fun _ => ih

variable (reports : ∀ notice, KeepsFiles (h.report notice))
include reports

theorem keepsFiles_logThrough (f : Filter) (r : Record) : KeepsFiles (logThrough h f r) := by
  unfold logThrough
  split
  · exact reports _
  · exact .done ()

theorem keepsFiles_reportAll (texts : List String) : KeepsFiles (reportAll h texts) := by
  induction texts with
  | nil => exact .done ()
  | cons text texts ih => exact (reports _).bind fun _ => ih

end quiet

theorem keepsFiles_report (notice : Notice) : KeepsFiles (World.host.report notice) := fun _ => rfl

variable {log : Record → StateM World Unit} {a : Arguments} {R : LineReader → Prop}
  {D : Buffered (Output Handle) → FileSystem → Prop} {fed : Prop}

/-- A run into an output preserves what the output's operations preserve. -/
theorem runInto_preserves (quiet : ∀ record, KeepsFiles (log record)) (output : Output Handle)
    (hd : (buffered World.host.outputDevice).Preserves D fed) (fresh : R {})
    (connects : ∀ r state files,
      R r → D state files → R (r.connect a.input (files.contents ⟨a.input⟩)).1)
    (closes : ∀ r, R r → R r.close)
    (feeds : ∀ r, R r → ∀ read ∈ r.items, (read ()).isOk → fed) :
    Leaves (fun w => D ⟨[], output⟩ w.files) (runInto World.host log a output)
      fun _ w => ∃ state, D state w.files := by
  intro w holds
  have upholds : Session.Upholds (fun path => World.host.contents ⟨path⟩)
      (buffered World.host.outputDevice) log World.host.now a.input R
      (fun v w => D v.device w.files) fed :=
    Session.upholds_device hd (fun _ => rfl) quiet (fun _ => rfl)
      (fun r state w => connects r state w.files) closes feeds
  obtain ⟨v, kept⟩ := runInto_upholds upholds (Session.leaves_abandon hd) fresh w holds
  exact ⟨v.device, kept⟩

/-- A reader that gives no frame. -/
def Barren (r : LineReader) : Prop := ∀ read ∈ r.items, (read ()).isOk = false

theorem barren_closed : Barren {} := by
  intro read mem
  cases List.mem_singleton.1 mem
  rfl

/-- There is no frame in a file that cannot be read or holds nothing. -/
theorem barren_connect {r : LineReader} (h : Barren r) (path : String)
    {found : Except SystemError (List UInt8)} (empty : ∀ bytes, found = .ok bytes → bytes = []) :
    Barren (r.connect path found).1 := by
  cases found with
  | error cause => exact h
  | ok bytes =>
      cases empty bytes rfl
      have text : Text.decode [] = some [] := Text.decode_encode []
      have lines : frameLines [] = [] := by rw [frameLines, Text.lines_nil]; rfl
      intro read mem
      simp [LineReader.connect, LineReader.textOf, text, lines, LineReader.items] at mem

variable {fs : FileSystem} {location : Location} {bytes : List UInt8}

/-- What becomes of an input in the run itself: nothing more than in opening the output. -/
theorem find?_runInto (quiet : ∀ record, KeepsFiles (log record)) {after : FileSystem}
    {outcome : Except RecordingFault (Output Handle)} {output : Output Handle}
    (grows : Grows fs after) (opened : Opened fs a.output after outcome)
    (ready : outcome = .ok output) (named : fs.resolve .reading ⟨a.input⟩ = .ok (.file location))
    (found : fs.find? location = some (.file bytes)) :
    Leaves (fun w => w.files = after) (runInto World.host log a output)
      fun _ w => w.files.find? location = after.find? location := by
  rcases opened.cases found with ⟨-, kept, elsewhere⟩ | ⟨-, emptied⟩
  -- The output is another file, and nothing is known of the frames that are written to it.
  · have run := runInto_preserves (a := a) (R := fun _ => True) quiet output
      (preserves_elsewhere location bytes) trivial (fun _ _ _ _ _ => trivial) (fun _ _ => trivial)
      fun _ _ _ _ _ => trivial
    intro w eq
    have before : Elsewhere location bytes output w.files := by
      rw [eq]
      exact elsewhere output ready
    obtain ⟨state, -, still⟩ := run w before
    rw [still, kept]
  -- The output is the input, which is empty by now, so there is no frame to write.
  · have connects : ∀ r state files, Barren r → Untouched output after state files →
        Barren (r.connect a.input (files.contents ⟨a.input⟩)).1 := by
      rintro r state _ barren ⟨-, rfl⟩
      exact barren_connect barren a.input fun _ read => contents_of_grows grows named emptied read
    have run := runInto_preserves quiet output (preserves_untouched output after) barren_closed
      connects (fun _ _ => barren_closed)
      fun r barren read mem isOk => by simp [barren read mem] at isOk
    intro w eq
    obtain ⟨state, -, still⟩ := run w ⟨rfl, eq⟩
    rw [still]

/-- What becomes of an input in a command that is let pass. -/
theorem find?_execute (quiet : ∀ record, KeepsFiles (log record)) {after : FileSystem}
    {outcome : Except RecordingFault (Output Handle)} (valid : validated fs a = .ok ())
    (grows : Grows fs after) (opened : Opened fs a.output after outcome)
    (opens : ∀ w : World, w.files = fs →
      openOutput World.host a.output w = (outcome, { w with files := after }))
    (named : fs.resolve .reading ⟨a.input⟩ = .ok (.file location))
    (found : fs.find? location = some (.file bytes)) :
    Leaves (fun w => w.files = fs) (execute World.host log a)
      fun _ w => w.files.find? location = after.find? location := by
  intro w eq
  have passed : validate World.host a w = (.ok (), w) := by rw [validate_host, eq, valid]
  have opening := opens w eq
  cases outcome with
  | error cause =>
      have ran : execute World.host log a w =
          (.error (.storage cause), { w with files := after }) :=
        (bind_run passed).trans (bind_run opening)
      rw [ran]
  | ok output =>
      have ran : execute World.host log a w = _ := (bind_run passed).trans (bind_run opening)
      rw [ran]
      refine Leaves.bind (R := fun _ w => w.files.find? location = after.find? location)
        (find?_runInto quiet grows opened rfl named found) (fun outcome => ?_)
        { w with files := after } rfl
      cases outcome with
      | error cause => exact .done fun _ holds => holds
      | ok stats =>
          intro w holds
          exact (congrArg (·.find? location) (keepsFiles_logAll quiet _ w)).trans holds

/-- A command that is let pass leaves its input as it was exactly if the input is empty or not
endangered, after the output was opened as well as in the end. Only an input whose location cannot
be told, or an output with a dead link on its way, can be in danger. -/
theorem input_kept_iff {w : World} {arguments : List String} {a : Arguments} {location : Location}
    {bytes : List UInt8} (filter : Option String) (parsed : Arguments.parse arguments = .ok a)
    (valid : (validate World.host a w).1 = .ok ())
    (ground : w.files.Grounded w.files.cwd)
    (named : w.files.resolve .reading ⟨a.input⟩ = .ok (.file location))
    (found : w.files.find? location = some (.file bytes)) :
    let opened := openOutput World.host a.output w
    let ended := main World.host filter arguments w
    let endangered := Endangers w.files a.output opened.1 location
    (opened.2.files.find? location = some (.file bytes) ↔ bytes = [] ∨ ¬endangered) ∧
      (ended.2.files.find? location = some (.file bytes) ↔ bytes = [] ∨ ¬endangered) ∧
      (endangered → (∃ cause, w.files.canonicalize ⟨a.input⟩ = .error cause) ∨ ∃ path ∈ a.output,
        w.files.MeetsDeadLink (w.files.origin ⟨path⟩) (Path.components ⟨path⟩)) := by
  intro opened ended endangered
  rw [validate_host] at valid
  obtain ⟨outcome, after, grows, opening, opens⟩ := openOutput_host a.output w.files
  have opened_eq : opened = (outcome, { w with files := after }) := opens w rfl
  have ended_eq : ended.2.files.find? location = after.find? location := by
    have whole : Leaves (fun v => v.files = w.files) (main World.host filter arguments)
        fun _ v => v.files.find? location = after.find? location := by
      unfold main
      refine .bind (Q := fun _ v => v.files = w.files)
        (fun v eq => (keepsFiles_reportAll keepsFiles_report (filterOf filter).2 v).trans eq)
        fun _ => ?_
      rw [parsed]
      refine .bind (find?_execute (keepsFiles_logThrough keepsFiles_report (filterOf filter).1)
        valid grows opening opens named found) fun executed => ?_
      cases executed <;> exact fun _ holds => holds
    exact whole w rfl
  -- Both times it comes down to what opening the output did.
  have fate : after.find? location = some (.file bytes) ↔ bytes = [] ∨ ¬endangered := by
    have same : endangered ↔ Endangers w.files a.output outcome location := by
      simp only [endangered, opened_eq]
    rw [same]
    rcases opening.cases found with ⟨safe, kept, -⟩ | ⟨danger, emptied⟩
    · exact iff_of_true kept (.inr safe)
    · rw [emptied]
      constructor
      · intro same
        cases same
        exact .inl rfl
      · rintro (rfl | safe)
        · rfl
        · exact absurd danger safe
  refine ⟨?_, ?_, ?_⟩
  · rw [opened_eq]
    exact fate
  · rw [ended_eq]
    exact fate
  · rintro ⟨-, path, to_path, reaches⟩
    cases told : w.files.canonicalize ⟨a.input⟩ with
    | error cause => exact .inl ⟨cause, rfl⟩
    | ok real =>
        refine .inr ⟨path, to_path, Classical.not_not.1 fun alive => ?_⟩
        exact not_reaches_of_validated ground valid to_path named told alive reaches

theorem eq_ok_of_toOption {ε α : Type} {x : Except ε α} {a : α} (h : x.toOption = some a) :
    x = .ok a := by
  cases x with
  | error => cases h
  | ok => cases h; rfl

/-- A recording, and next to it a link that leads to the recording as soon as there is a directory
`d`. -/
def trap : World where
  files :=
    { entries :=
        [(["in.jsonl"], .file (Text.encode "\x7b\"index\":0\x7d\n".toList)),
          (["l"], .link "d/../in.jsonl")] }

theorem input_kept_iff_of_plain_output :
    let arguments := ["in.jsonl", "out.jsonl"]
    let a : Arguments := { input := "in.jsonl", output := some "out.jsonl" }
    let bytes := Text.encode "\x7b\"index\":0\x7d\n".toList
    let endangered := Endangers trap.files a.output (openOutput World.host a.output trap).1
      ["in.jsonl"]
    Arguments.parse arguments = .ok a ∧ (validate World.host a trap).1 = .ok () ∧
      ((main World.host none arguments trap).2.files.find? ["in.jsonl"] = some (.file bytes) ↔
        bytes = [] ∨ ¬endangered) := by
  intro arguments a bytes endangered
  have parsed : Arguments.parse arguments = .ok a := eq_ok_of_toOption (by decide +kernel)
  have valid : (validate World.host a trap).1 = .ok () := eq_ok_of_toOption (by decide +kernel)
  have named : trap.files.resolve .reading ⟨a.input⟩ = .ok (.file ["in.jsonl"]) :=
    eq_ok_of_toOption (by decide +kernel)
  have found : trap.files.find? ["in.jsonl"] = some (.file bytes) := by decide +kernel
  exact ⟨parsed, valid,
    (input_kept_iff none parsed valid (FileSystem.grounded_root _) named found).2.1⟩

/-- The command is let pass, and opening the output empties the input. -/
theorem input_lost_behind_dead_link :
    let a : Arguments := { input := "in.jsonl", output := some "d/../l" }
    Arguments.parse ["in.jsonl", "d/../l"] = .ok a ∧ (validate World.host a trap).1 = .ok () ∧
      trap.files.find? ["in.jsonl"] = some (.file (Text.encode "\x7b\"index\":0\x7d\n".toList)) ∧
      (openOutput World.host a.output trap).2.files.find? ["in.jsonl"] = some (.file []) ∧
      (main World.host none ["in.jsonl", "d/../l"] trap).2.files.find? ["in.jsonl"] =
        some (.file []) := by
  refine ⟨?_, ?_, ?_, ?_, ?_⟩
  · exact eq_ok_of_toOption (by decide +kernel)
  · exact eq_ok_of_toOption (by decide +kernel)
  · decide +kernel
  · decide +kernel
  · decide +kernel

end CommandLine

end FaceAnnotator
