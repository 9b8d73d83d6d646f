import FaceAnnotator.Proofs.FileSystem.Growth
/-!
# FaceAnnotator.Proofs.FileSystem.Persistence

**What was found at a path is found there for good.**

While a tree is only added to, its directories and links stay, so a walk that came to something
comes to it again (`Grows.resolve`). A directory that was made is found at the path that it was
made for (`resolve_makeDirectory`).
-/

namespace FaceAnnotator.FileSystem

namespace Grown

variable {after : Option Entry}

theorem directory_stays (h : Grown (some .directory) after) : after = some .directory := by
  cases h
  rfl

theorem link_stays {target : String} (h : Grown (some (.link target)) after) :
    after = some (.link target) := by
  cases h
  rfl

theorem file_stays {old : List UInt8} (h : Grown (some (.file old)) after) :
    ∃ bytes, after = some (.file bytes) := by
  cases h with
  | same => exact ⟨old, rfl⟩
  | bytes _ new => exact ⟨new, rfl⟩

end Grown

/-- A stop that is made for something that is there. -/
def Stop.IsThere : Stop → Prop
  | .missing _ _ _ => False
  | _ => True

/-- A target that is there. -/
def Target.IsThere : Target → Prop
  | .vacant _ _ => False
  | _ => True

variable {fs after : FileSystem}

/-- A way along directories stops at what it stopped at before. -/
theorem Grows.descend (h : Grows fs after) {place : Location} {segments : List String}
    (there : (fs.descend place segments).IsThere) :
    after.descend place segments = fs.descend place segments := by
  induction segments generalizing place with
  | nil => rfl
  | cons segment rest ih =>
      unfold FileSystem.descend at there ⊢
      by_cases here : segment = "."
      · rw [if_pos here] at there ⊢
        rw [if_pos here]
        exact ih there
      rw [if_neg here] at there ⊢
      rw [if_neg here]
      by_cases above : segment = ".."
      · rw [if_pos above] at there ⊢
        rw [if_pos above]
        exact ih there
      rw [if_neg above] at there ⊢
      rw [if_neg above]
      have grown := h.find (place ++ [segment])
      cases found : fs.find? (place ++ [segment]) with
      | none =>
          rw [found] at there
          exact there.elim
      | some entry =>
          rw [found] at there grown
          cases entry with
          | directory =>
              rw [grown.directory_stays]
              exact ih there
          | file old =>
              obtain ⟨bytes, stays⟩ := grown.file_stays
              rw [stays]
          | link target => rw [grown.link_stays]

/-- A walk comes to what it came to before. -/
theorem Grows.follow (h : Grows fs after) {links : Nat} {place : Location} {segments : List String}
    {slash : Bool} {t : Target} (walked : fs.follow .reading links place segments slash = .ok t)
    (there : t.IsThere) : after.follow .reading links place segments slash = .ok t := by
  fun_induction FileSystem.follow fs .reading links place segments slash with
  | case1 links place segments slash location eq =>
      have same : after.descend place segments = fs.descend place segments :=
        h.descend (by rw [eq]; trivial)
      unfold FileSystem.follow
      rw [same, eq]
      exact walked
  | case4 links place segments slash location rest eq ended level =>
      have same : after.descend place segments = fs.descend place segments :=
        h.descend (by rw [eq]; trivial)
      unfold FileSystem.follow
      rw [same, eq]
      simp only [ended, level]
      exact walked
  | case8 links place segments slash parent name rest eq _ _ _ =>
      cases walked
      exact there.elim
  | case11 place segments slash parent target rest eq level links path ih =>
      have same : after.descend place segments = fs.descend place segments :=
        h.descend (by rw [eq]; trivial)
      unfold FileSystem.follow
      rw [same, eq]
      simp only [reduceCtorEq, decide_false, Bool.and_false, Bool.false_eq_true, if_false]
      exact ih walked
  | _ => cases walked

theorem Grows.resolve (h : Grows fs after) {path : Path} {t : Target}
    (found : fs.resolve .reading path = .ok t) (there : t.IsThere) :
    after.resolve .reading path = .ok t := by
  unfold FileSystem.resolve at found ⊢
  split at found
  · cases found
  rename_i short
  obtain ⟨whole, some_text, followed⟩ := walk_eq_ok_iff.1 found
  rw [if_neg short, walk_eq_ok_iff, origin, h.cwd, ← origin]
  exact ⟨whole, some_text, h.follow followed there⟩

/-! ### A directory that was made -/

/-- A stop, when there are more segments to go behind those that led to it. -/
def Stop.goOn (fs : FileSystem) (more : List String) : Stop → Stop
  | .directory location => fs.descend location more
  | .file location rest => .file location (rest ++ more)
  | .missing parent name rest => .missing parent name (rest ++ more)
  | .link parent target rest => .link parent target (rest ++ more)

theorem descend_append (place : Location) (segments more : List String) :
    fs.descend place (segments ++ more) = (fs.descend place segments).goOn fs more := by
  induction segments generalizing place with
  | nil => rfl
  | cons segment rest ih =>
      rw [List.cons_append, FileSystem.descend, FileSystem.descend]
      split
      · exact ih place
      split
      · exact ih place.dropLast
      split
      · exact ih (place ++ [segment])
      all_goals rfl

/-- A walk to a directory goes on along the directories behind it. -/
theorem follow_append {links : Nat} {place mid goal : Location} {segments more : List String}
    {slash : Bool} (walked : fs.follow .reading links place segments slash = .ok (.directory mid))
    (next : fs.descend mid more = .directory goal) (slash' : Bool) :
    fs.follow .reading links place (segments ++ more) slash' = .ok (.directory goal) := by
  fun_induction FileSystem.follow fs .reading links place segments slash generalizing slash' with
  | case1 links place segments slash location eq =>
      cases walked
      unfold FileSystem.follow
      rw [descend_append, eq, Stop.goOn, next]
  | case11 place segments slash parent target rest eq level links path ih =>
      unfold FileSystem.follow
      rw [descend_append, eq, Stop.goOn]
      simp only [reduceCtorEq, decide_false, Bool.and_false, Bool.false_eq_true, if_false]
      rw [← List.append_assoc]
      exact ih walked _
  | _ => cases walked

theorem not_isEmpty_of_segments {path : Path} (h : path.segments ≠ []) : ¬path.isEmpty := by
  intro empty
  have text : path.text = "" := by simpa [Path.isEmpty] using empty
  exact h (by rw [Path.segments, text]; decide)

/-- A directory that was made stands where nothing stood, and its path leads to it. -/
theorem resolve_makeDirectory {path : Path} (h : fs.makeDirectory path = (.ok (), after)) :
    ∃ location, fs.find? location = none ∧ after = fs.put location .directory ∧
      after.resolve .reading path = .ok (.directory location) := by
  obtain ⟨whole, short, above, parent, name, segments, here, up, walked, free, eq⟩ :=
    makeDirectory_eq_ok h
  have grows : Grows fs after := eq ▸ .put (free ▸ .directory)
  have made : after.find? (parent ++ [name]) = some .directory := by
    rw [eq, find?_put, if_pos ⟨rfl, by simp⟩]
  have entered : after.descend parent [name] = .directory (parent ++ [name]) := by
    rw [descend, if_neg here, if_neg up, made]
    rfl
  refine ⟨parent ++ [name], free, eq, ?_⟩
  have some_text : ¬path.isEmpty := not_isEmpty_of_segments (by rw [segments]; simp)
  have came := follow_append (grows.follow walked trivial) entered path.slash
  rw [← segments] at came
  unfold resolve
  rw [if_neg (by simp [short]), walk_eq_ok_iff, origin, grows.cwd, ← origin]
  exact ⟨whole, some_text, came⟩

end FaceAnnotator.FileSystem
