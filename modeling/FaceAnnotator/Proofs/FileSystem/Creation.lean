import FaceAnnotator.Proofs.FileSystem.Growth
/-!
# FaceAnnotator.Proofs.FileSystem.Creation

**A file that was created is found at its path.**

A walk that ends at a file, or at a name that nothing stands at yet, came through
directories and links only. So it takes the same way once a file stands there, and ends at
that file (`walk_createFile`).
-/

namespace FaceAnnotator.FileSystem

/-- Something that no walk goes through: a file, or nothing. -/
def EndsWalks (fs : FileSystem) (location : Location) : Prop :=
  fs.find? location = none ∨ ∃ bytes, fs.find? location = some (.file bytes)

variable {fs : FileSystem} {goal : Location}

theorem EndsWalks.ne_nil (h : fs.EndsWalks goal) : goal ≠ [] := by
  rintro rfl
  rcases h with none | ⟨bytes, file⟩
  · rw [find?_root] at none
    cases none
  · rw [find?_root] at file
    cases file

theorem find?_put_goal (h : fs.EndsWalks goal) (bytes : List UInt8) :
    (fs.put goal (.file bytes)).find? goal = some (.file bytes) := by
  rw [find?_put, if_pos ⟨rfl, h.ne_nil⟩]

/-- Where a file is created, a way along directories changes at its end only, and there from nothing
to the file. -/
theorem descend_put (h : fs.EndsWalks goal) (bytes : List UInt8) (place : Location)
    (segments : List String) :
    (fs.put goal (.file bytes)).descend place segments =
      match fs.descend place segments with
      | .missing parent name rest =>
        if parent ++ [name] = goal then .file goal rest else .missing parent name rest
      | stop => stop := by
  induction segments generalizing place with
  | nil => rfl
  | cons segment rest ih =>
      unfold descend
      by_cases here : segment = "."
      · rw [if_pos here, if_pos here]
        exact ih place
      rw [if_neg here, if_neg here]
      by_cases above : segment = ".."
      · rw [if_pos above, if_pos above]
        exact ih place.dropLast
      rw [if_neg above, if_neg above]
      by_cases there : place ++ [segment] = goal
      · subst there
        rw [find?_put_goal h]
        rcases h with none | ⟨old, file⟩
        · simp [none]
        · simp [file]
      · have same : (fs.put goal (.file bytes)).find? (place ++ [segment]) =
            fs.find? (place ++ [segment]) := by
          rw [find?_put, if_neg fun eq => there eq.1.symm]
        rw [same]
        cases fs.find? (place ++ [segment]) with
        | none => simp [there]
        | some entry =>
            cases entry with
            | directory => exact ih (place ++ [segment])
            | file old => rfl
            | link target => rfl

/-- A walk to a place where a file may be created comes to the file once it is there. -/
theorem follow_put {links : Nat} {place : Location} {segments : List String} {slash : Bool}
    {t : Target} (h : fs.follow .creating links place segments slash = .ok t)
    (ends : fs.EndsWalks t.location) (file : ∀ location, t ≠ .directory location)
    (bytes : List UInt8) :
    (fs.put t.location (.file bytes)).follow .reading links place segments slash =
      .ok (.file t.location) := by
  fun_induction follow fs .creating links place segments slash with
  | case1 links place segments slash location =>
      cases h
      exact absurd rfl (file location)
  | case4 links place segments slash location rest eq ended level =>
      cases h
      unfold follow
      rw [descend_put ends, eq]
      simp only [ended, level]
      rfl
  | case8 links place segments slash parent name rest eq _ _ ended =>
      cases h
      simp only [Bool.or_eq_true, not_or, Bool.not_eq_true, Bool.not_eq_false'] at ended
      unfold follow
      rw [descend_put ends, eq]
      simp [Target.location, ended]
  | case11 place segments slash parent target rest eq level links path ih =>
      have later := ih h
      unfold follow
      rw [descend_put ends, eq]
      simp only [reduceCtorEq, decide_false, Bool.and_false, Bool.false_eq_true, if_false]
      exact later
  | _ => cases h

/-- What was created at a path is found there. -/
theorem walk_createFile {path : Path} {handle : Handle} {after : FileSystem}
    (h : fs.createFile path = (.ok handle, after)) :
    after.walk .reading path = .ok (.file handle.location) ∧
      after.find? handle.location = some (.file []) := by
  unfold createFile at h
  split at h
  · cases h
  · cases h
  · rename_i t not_directory resolved
    have walked := walk_of_resolve resolved
    obtain ⟨-, stands⟩ := reaches_of_walk walked
    have ends : fs.EndsWalks t.location := by
      cases t with
      | directory location => exact absurd rfl (not_directory location)
      | file location => exact .inr stands
      | vacant parent name => exact .inl stands
    cases h
    refine ⟨?_, find?_put_goal ends []⟩
    obtain ⟨whole, some_text, followed⟩ := walk_eq_ok_iff.1 walked
    exact walk_eq_ok_iff.2 ⟨whole, some_text, follow_put followed ends not_directory []⟩

end FaceAnnotator.FileSystem
