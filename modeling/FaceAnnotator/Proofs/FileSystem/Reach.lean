import FaceAnnotator.FileSystem.Resolution
import FaceAnnotator.Proofs.FileSystem.Path
/-!
# FaceAnnotator.Proofs.FileSystem.Reach

**Where segments lead, with what is missing taken as made.**

`Reaches fs place segments goal` follows links as the system does, with no limit on their number,
and goes through names that are not there as if directories of these names were. So it does not
change when missing directories are made, and every walk that comes to an end ends where it says
(`reaches_of_follow`). No segments lead to two places (`Reaches.unique`).
-/

namespace FaceAnnotator.FileSystem

/-- A directory is at a location, or nothing yet. -/
def Passable (fs : FileSystem) (location : Location) : Prop :=
  fs.find? location = none ∨ fs.find? location = some .directory

/-- A segment that is neither `.` nor `..`. -/
def IsPlain (segment : String) : Prop := segment ≠ "." ∧ segment ≠ ".."

/-- From a place some segments lead to a goal. -/
inductive Reaches (fs : FileSystem) : Location → List String → Location → Prop where
  | done {place : Location} : Reaches fs place [] place
  | stay {place goal : Location} {segment : String} {rest : List String} (here : segment = ".")
      (next : Reaches fs place rest goal) : Reaches fs place (segment :: rest) goal
  | up {place goal : Location} {segment : String} {rest : List String} (above : segment = "..")
      (next : Reaches fs place.dropLast rest goal) : Reaches fs place (segment :: rest) goal
  | enter {place goal : Location} {name : String} {rest : List String} (plain : IsPlain name)
      (passable : fs.Passable (place ++ [name])) (next : Reaches fs (place ++ [name]) rest goal) :
      Reaches fs place (name :: rest) goal
  | file {place : Location} {name : String} {bytes : List UInt8} (plain : IsPlain name)
      (found : fs.find? (place ++ [name]) = some (.file bytes)) :
      Reaches fs place [name] (place ++ [name])
  | link {place goal : Location} {name target : String} {rest : List String} (plain : IsPlain name)
      (found : fs.find? (place ++ [name]) = some (.link target))
      (next : Reaches fs (linkOrigin place ⟨target⟩) (Path.segments ⟨target⟩ ++ rest) goal) :
      Reaches fs place (name :: rest) goal

variable {fs : FileSystem}

theorem Passable.ne_file {location : Location} {bytes : List UInt8} (h : fs.Passable location) :
    fs.find? location ≠ some (.file bytes) := by
  intro found
  rcases h with h | h <;> rw [h] at found <;> cases found

theorem Passable.ne_link {location : Location} {target : String} (h : fs.Passable location) :
    fs.find? location ≠ some (.link target) := by
  intro found
  rcases h with h | h <;> rw [h] at found <;> cases found

namespace Reaches

variable {place goal : Location} {segment : String} {rest : List String}

theorem of_stay (h : Reaches fs place (segment :: rest) goal) (here : segment = ".") :
    Reaches fs place rest goal := by
  cases h with
  | stay _ next => exact next
  | up above => exact absurd (here.symm.trans above) (by decide)
  | enter plain => exact absurd here plain.1
  | file plain => exact absurd here plain.1
  | link plain => exact absurd here plain.1

theorem of_up (h : Reaches fs place (segment :: rest) goal) (above : segment = "..") :
    Reaches fs place.dropLast rest goal := by
  cases h with
  | stay here => exact absurd (here.symm.trans above) (by decide)
  | up _ next => exact next
  | enter plain => exact absurd above plain.2
  | file plain => exact absurd above plain.2
  | link plain => exact absurd above plain.2

/-- What stands at a plain name says how it leads on. -/
theorem of_plain (h : Reaches fs place (segment :: rest) goal) (plain : IsPlain segment) :
    (fs.Passable (place ++ [segment]) ∧ Reaches fs (place ++ [segment]) rest goal) ∨
      (rest = [] ∧ goal = place ++ [segment] ∧
        ∃ bytes, fs.find? (place ++ [segment]) = some (.file bytes)) ∨
      ∃ target, fs.find? (place ++ [segment]) = some (.link target) ∧
        Reaches fs (linkOrigin place ⟨target⟩) (Path.segments ⟨target⟩ ++ rest) goal := by
  cases h with
  | stay here => exact absurd here plain.1
  | up above => exact absurd above plain.2
  | enter _ passable next => exact .inl ⟨passable, next⟩
  | file _ found => exact .inr (.inl ⟨rfl, rfl, _, found⟩)
  | link _ found next => exact .inr (.inr ⟨_, found, next⟩)

/-- No segments lead to two places. -/
theorem unique {other : Location} {segments : List String} (h : Reaches fs place segments goal)
    (h' : Reaches fs place segments other) : goal = other := by
  induction h with
  | done =>
      cases h'
      rfl
  | stay here _ ih => exact ih (h'.of_stay here)
  | up above _ ih => exact ih (h'.of_up above)
  -- A plain name leads on by what stands there, which is the same both times.
  | enter plain passable _ ih =>
      rcases h'.of_plain plain with ⟨-, next⟩ | ⟨-, -, bytes, found⟩ | ⟨target, found, -⟩
      · exact ih next
      · exact absurd found passable.ne_file
      · exact absurd found passable.ne_link
  | file plain found =>
      rcases h'.of_plain plain with ⟨passable, -⟩ | ⟨-, same, -⟩ | ⟨target, found', -⟩
      · exact absurd found passable.ne_file
      · exact same.symm
      · rw [found] at found'
        cases found'
  | link plain found _ ih =>
      rcases h'.of_plain plain with ⟨passable, -⟩ | ⟨-, -, bytes, found'⟩ | ⟨target, found', next⟩
      · exact absurd found passable.ne_link
      · rw [found] at found'
        cases found'
      · rw [found] at found'
        cases found'
        exact ih next

end Reaches

/-! ### Walks -/

/-- What is known of the place that a walk along some segments has stopped at. -/
def Stop.Explains (fs : FileSystem) (place : Location) (segments : List String) : Stop → Prop
  | .directory location => Reaches fs place segments location
  | .file location rest =>
    (∃ bytes, fs.find? location = some (.file bytes)) ∧
      (rest = [] → Reaches fs place segments location)
  | .missing parent name rest =>
    fs.find? (parent ++ [name]) = none ∧ (rest = [] → Reaches fs place segments (parent ++ [name]))
  | .link parent target rest =>
    ∀ goal, Reaches fs (linkOrigin parent ⟨target⟩) (Path.segments ⟨target⟩ ++ rest) goal →
      Reaches fs place segments goal

/-- What leads on behind one more segment explains the same stop. -/
theorem Stop.Explains.cons {place next : Location} {segment : String} {rest : List String}
    {s : Stop} (h : s.Explains fs next rest)
    (step : ∀ goal, Reaches fs next rest goal → Reaches fs place (segment :: rest) goal) :
    s.Explains fs place (segment :: rest) := by
  cases s with
  | directory location => exact step _ h
  | file location more => exact ⟨h.1, fun ended => step _ (h.2 ended)⟩
  | missing parent name more => exact ⟨h.1, fun ended => step _ (h.2 ended)⟩
  | link parent target more => exact fun goal next => step _ (h goal next)

theorem explains_descend (fs : FileSystem) (place : Location) (segments : List String) :
    (fs.descend place segments).Explains fs place segments := by
  induction segments generalizing place with
  | nil => exact Reaches.done
  | cons segment rest ih =>
      rw [descend]
      split
      · rename_i here
        exact (ih place).cons fun _ next => next.stay here
      split
      · rename_i above
        exact (ih place.dropLast).cons fun _ next => next.up above
      rename_i here above
      have plain : IsPlain segment := ⟨here, above⟩
      split
      · rename_i found
        exact (ih (place ++ [segment])).cons fun _ next => next.enter plain (.inr found)
      · rename_i bytes found
        refine ⟨⟨bytes, found⟩, ?_⟩
        rintro rfl
        exact .file plain found
      · rename_i target found
        exact fun _ next => next.link plain found
      · rename_i found
        refine ⟨found, ?_⟩
        rintro rfl
        exact .enter plain (.inl found) .done

/-- What a walk led to stands there as it says. -/
def Target.Stands (fs : FileSystem) : Target → Prop
  | .directory _ => True
  | .file location => ∃ bytes, fs.find? location = some (.file bytes)
  | .vacant parent name => fs.find? (parent ++ [name]) = none

/-- A walk that comes to an end has followed the segments, and found what it says. -/
theorem reaches_of_follow {purpose : Purpose} {links : Nat} {place : Location}
    {segments : List String} {slash : Bool} {t : Target}
    (h : fs.follow purpose links place segments slash = .ok t) :
    Reaches fs place segments t.location ∧ t.Stands fs := by
  have stop := explains_descend fs place segments
  fun_induction follow fs purpose links place segments slash with
  | case1 links place segments slash location eq =>
      rw [eq] at stop
      cases h
      exact ⟨stop, trivial⟩
  | case4 links place segments slash location rest eq ended _ =>
      rw [eq] at stop
      cases h
      exact ⟨stop.2 (by simpa using ended), stop.1⟩
  | case8 links place segments slash parent name rest eq _ _ ended =>
      rw [eq] at stop
      cases h
      exact ⟨stop.2 (by simp_all), stop.1⟩
  | case11 place segments slash parent target rest eq _ links path ih =>
      rw [eq] at stop
      obtain ⟨next, stands⟩ := ih h (explains_descend fs _ _)
      exact ⟨stop _ next, stands⟩
  | _ => cases h

/-- A path is followed by its segments, if it is one at all. -/
theorem walk_eq_ok_iff {purpose : Purpose} {path : Path} {t : Target} :
    fs.walk purpose path = .ok t ↔ ¬path.isCut ∧ ¬path.isEmpty ∧
      fs.follow purpose maxLinks (fs.origin path) path.segments path.slash = .ok t := by
  unfold walk
  split
  · rename_i cut
    simp [cut]
  split
  · rename_i empty
    simp [empty]
  · rename_i whole some_text
    simp [whole, some_text]

/-- What a path leads to is reached from where the path begins. -/
theorem reaches_of_walk {purpose : Purpose} {path : Path} {t : Target}
    (h : fs.walk purpose path = .ok t) :
    Reaches fs (fs.origin path) path.segments t.location ∧ t.Stands fs :=
  reaches_of_follow (walk_eq_ok_iff.1 h).2.2

theorem walk_of_resolve {purpose : Purpose} {path : Path} {t : Target}
    (h : fs.resolve purpose path = .ok t) : fs.walk purpose path = .ok t := by
  unfold resolve at h
  split at h
  · cases h
  exact h

/-! ### Grounds -/

/-- All the way from the root to a location there are plain names, and nothing but directories or
what may become one. -/
def Grounded (fs : FileSystem) (location : Location) : Prop :=
  ∀ above name, above ++ [name] <+: location →
    IsName name ∧ IsPlain name ∧ fs.Passable (above ++ [name])

theorem grounded_root (fs : FileSystem) : fs.Grounded [] := by
  intro above name within
  simp at within

namespace Grounded

variable {place goal : Location}

theorem dropLast (h : fs.Grounded place) : fs.Grounded place.dropLast :=
  fun above name within => h above name (within.trans (List.dropLast_prefix place))

theorem concat {name : String} (h : fs.Grounded place) (is : IsName name) (plain : IsPlain name)
    (passable : fs.Passable (place ++ [name])) : fs.Grounded (place ++ [name]) := by
  intro above last within
  rcases List.prefix_concat_iff.1 within with eq | within
  · obtain ⟨rfl, same⟩ := List.append_inj' eq rfl
    cases same
    exact ⟨is, plain, passable⟩
  · exact h above last within

theorem isPlain (h : fs.Grounded place) : ∀ name ∈ place, IsName name ∧ IsPlain name := by
  intro name mem
  obtain ⟨before, after, rfl⟩ := List.append_of_mem mem
  obtain ⟨is, plain, -⟩ := h before name ⟨after, by simp⟩
  exact ⟨is, plain⟩

theorem isName (h : fs.Grounded place) : ∀ name ∈ place, IsName name :=
  fun name mem => (h.isPlain name mem).1

theorem isName_concat {name : String} (h : fs.Grounded place) (is : IsName name) :
    ∀ other ∈ place ++ [name], IsName other := by
  intro other mem
  rcases List.mem_append.1 mem with mem | mem
  · exact h.isName other mem
  · exact List.mem_singleton.1 mem ▸ is

/-- A link on a ground begins on one. -/
theorem linkOrigin (h : fs.Grounded place) (target : Path) :
    fs.Grounded (linkOrigin place target) := by
  unfold FileSystem.linkOrigin
  split
  · exact grounded_root fs
  · exact h

/-- Wherever a path begins is a ground. -/
theorem origin (h : fs.Grounded fs.cwd) (path : Path) : fs.Grounded (fs.origin path) := by
  unfold FileSystem.origin
  split
  · exact grounded_root fs
  · exact h

/-- A place is reached by its own names. -/
theorem reaches (h : fs.Grounded place) : Reaches fs [] place place := by
  suffices from_above : ∀ more above, above ++ more = place → Reaches fs above more place from
    from_above place [] rfl
  intro more
  induction more with
  | nil =>
      rintro above rfl
      rw [List.append_nil]
      exact .done
  | cons name more ih =>
      intro above eq
      rw [← List.singleton_append, ← List.append_assoc] at eq
      obtain ⟨-, plain, passable⟩ := h above name ⟨more, eq⟩
      exact .enter plain passable (ih _ eq)

end Grounded

/-- Whoever goes along some segments and then along others comes through a place in between; it is a
ground to go on from, unless there was nothing left to go. -/
theorem Reaches.split {place goal : Location} {first rest : List String}
    (h : Reaches fs place (first ++ rest) goal) (grounded : fs.Grounded place)
    (names : ∀ name ∈ first, IsName name) :
    ∃ mid, Reaches fs place first mid ∧ Reaches fs mid rest goal ∧
      (rest ≠ [] → fs.Grounded mid) := by
  generalize whole : first ++ rest = segments at h
  induction h generalizing first with
  | @done place =>
      obtain ⟨rfl, rfl⟩ := List.append_eq_nil_iff.1 whole
      exact ⟨place, .done, .done, fun _ => grounded⟩
  | @stay place goal segment _ here next ih =>
      cases first with
      | nil =>
          cases whole
          exact ⟨place, .done, .stay here next, fun _ => grounded⟩
      | cons name first =>
          cases whole
          obtain ⟨mid, before, after, ground⟩ :=
            ih grounded (fun other mem => names other (List.mem_cons_of_mem _ mem)) rfl
          exact ⟨mid, .stay here before, after, ground⟩
  | @up place goal segment _ above next ih =>
      cases first with
      | nil =>
          cases whole
          exact ⟨place, .done, .up above next, fun _ => grounded⟩
      | cons name first =>
          cases whole
          obtain ⟨mid, before, after, ground⟩ :=
            ih grounded.dropLast (fun other mem => names other (List.mem_cons_of_mem _ mem)) rfl
          exact ⟨mid, .up above before, after, ground⟩
  | @enter place goal segment _ plain passable next ih =>
      cases first with
      | nil =>
          cases whole
          exact ⟨place, .done, .enter plain passable next, fun _ => grounded⟩
      | cons name first =>
          cases whole
          have ground := grounded.concat (names _ List.mem_cons_self) plain passable
          obtain ⟨mid, before, after, ground⟩ :=
            ih ground (fun other mem => names other (List.mem_cons_of_mem _ mem)) rfl
          exact ⟨mid, .enter plain passable before, after, ground⟩
  | @file place segment bytes plain found =>
      cases first with
      | nil =>
          cases whole
          exact ⟨place, .done, .file plain found, fun _ => grounded⟩
      | cons name first =>
          obtain ⟨rfl, ended⟩ := List.cons.inj whole
          obtain ⟨rfl, rfl⟩ := List.append_eq_nil_iff.1 ended
          exact ⟨_, .file plain found, .done, fun more => absurd rfl more⟩
  | @link place goal segment target _ plain found next ih =>
      cases first with
      | nil =>
          cases whole
          exact ⟨place, .done, .link plain found next, fun _ => grounded⟩
      | cons name first =>
          cases whole
          -- The segments of the target take the place of the link, so they are names like
          -- the others.
          have all : ∀ other ∈ Path.segments ⟨target⟩ ++ first, IsName other := by
            intro other mem
            rcases List.mem_append.1 mem with mem | mem
            · exact Path.isName_of_mem_segments mem
            · exact names other (List.mem_cons_of_mem _ mem)
          obtain ⟨mid, before, after, ground⟩ :=
            ih (grounded.linkOrigin _) all (List.append_assoc _ _ _)
          exact ⟨mid, .link plain found before, after, ground⟩

/-- The names of a place, in front of some segments, only lead to the place. -/
theorem Reaches.of_grounded {place goal : Location} {segments : List String}
    (h : Reaches fs [] (place ++ segments) goal) (grounded : fs.Grounded place) :
    Reaches fs place segments goal := by
  obtain ⟨mid, before, after, -⟩ := h.split (grounded_root fs) grounded.isName
  rwa [grounded.reaches.unique before]

end FaceAnnotator.FileSystem
