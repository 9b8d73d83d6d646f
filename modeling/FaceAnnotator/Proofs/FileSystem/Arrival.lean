import FaceAnnotator.Proofs.FileSystem.Persistence
/-!
# FaceAnnotator.Proofs.FileSystem.Arrival

**How a walk comes to what is there**, segment by segment, with the links that it may still lead
through.

`Arrives fs links place segments slash t` holds exactly when `follow` comes to `t` and `t` is there
(`follow_eq_ok_iff`). More links and no slash at the end do no harm (`Arrives.weaken`), and a walk
can be taken in stages (`Arrives.split`). Where it begins in a directory that is reached through
directories only, it ends in such a one or in a file there (`Arrives.settled`).
-/

namespace FaceAnnotator.FileSystem

/-- From a place some segments lead to a target that is there, through no more than the given
number of links. -/
inductive Arrives (fs : FileSystem) : Nat → Location → List String → Bool → Target → Prop where
  | done {links : Nat} {place : Location} {slash : Bool} :
      Arrives fs links place [] slash (.directory place)
  | stay {links : Nat} {place : Location} {segment : String} {rest : List String} {slash : Bool}
      {t : Target} (here : segment = ".") (next : Arrives fs links place rest slash t) :
      Arrives fs links place (segment :: rest) slash t
  | up {links : Nat} {place : Location} {segment : String} {rest : List String} {slash : Bool}
      {t : Target} (above : segment = "..") (next : Arrives fs links place.dropLast rest slash t) :
      Arrives fs links place (segment :: rest) slash t
  | enter {links : Nat} {place : Location} {name : String} {rest : List String} {slash : Bool}
      {t : Target} (plain : IsPlain name) (found : fs.find? (place ++ [name]) = some .directory)
      (next : Arrives fs links (place ++ [name]) rest slash t) :
      Arrives fs links place (name :: rest) slash t
  | file {links : Nat} {place : Location} {name : String} {bytes : List UInt8}
      (plain : IsPlain name) (found : fs.find? (place ++ [name]) = some (.file bytes)) :
      Arrives fs links place [name] false (.file (place ++ [name]))
  | link {links : Nat} {place : Location} {name target : String} {rest : List String} {slash : Bool}
      {t : Target} (plain : IsPlain name) (found : fs.find? (place ++ [name]) = some (.link target))
      (next : Arrives fs links (linkOrigin place ⟨target⟩) (Path.segments ⟨target⟩ ++ rest)
        (if rest.isEmpty then slash || Path.slash ⟨target⟩ else slash) t) :
      Arrives fs (links + 1) place (name :: rest) slash t

variable {fs : FileSystem} {links : Nat} {place : Location} {segments : List String} {slash : Bool}
  {t : Target}

/-! ### Walks -/

/-- What of a stop leads on to something that is there. -/
def Stop.Continues (fs : FileSystem) (place : Location) (segments : List String) : Stop → Prop
  | .directory location =>
    ∀ links slash, Arrives fs links place segments slash (.directory location)
  | .file location rest =>
    rest = [] → ∀ links, Arrives fs links place segments false (.file location)
  | .missing _ _ _ => True
  | .link parent target rest =>
    ∀ links slash t,
      Arrives fs links (linkOrigin parent ⟨target⟩) (Path.segments ⟨target⟩ ++ rest)
        (if rest.isEmpty then slash || Path.slash ⟨target⟩ else slash) t →
      Arrives fs (links + 1) place segments slash t

theorem Stop.Continues.cons {next : Location} {segment : String} {rest : List String} {s : Stop}
    (h : s.Continues fs next rest)
    (step : ∀ links slash t, Arrives fs links next rest slash t →
      Arrives fs links place (segment :: rest) slash t) :
    s.Continues fs place (segment :: rest) := by
  cases s with
  | directory location => exact fun links slash => step _ _ _ (h links slash)
  | file location more => exact fun ended links => step _ _ _ (h ended links)
  | missing parent name more => trivial
  | link parent target more => exact fun links slash t later => step _ _ _ (h links slash t later)

theorem continues_descend (fs : FileSystem) (place : Location) (segments : List String) :
    (fs.descend place segments).Continues fs place segments := by
  induction segments generalizing place with
  | nil => exact fun links slash => .done
  | cons segment rest ih =>
      rw [descend]
      split
      · rename_i here
        exact (ih place).cons fun _ _ _ next => .stay here next
      split
      · rename_i above
        exact (ih place.dropLast).cons fun _ _ _ next => .up above next
      rename_i here above
      have plain : IsPlain segment := ⟨here, above⟩
      split
      · rename_i found
        exact (ih (place ++ [segment])).cons fun _ _ _ next => .enter plain found next
      · rename_i bytes found
        rintro rfl links
        exact .file plain found
      · rename_i target found
        exact fun _ _ _ next => .link plain found next
      · trivial

theorem arrives_of_follow (h : fs.follow .reading links place segments slash = .ok t)
    (there : t.IsThere) :
    Arrives fs links place segments slash t := by
  have stop := continues_descend fs place segments
  fun_induction follow fs .reading links place segments slash with
  | case1 links place segments slash location eq =>
      rw [eq] at stop
      cases h
      exact stop links slash
  | case4 links place segments slash location rest eq ended level =>
      rw [eq] at stop
      cases h
      rw [Bool.not_eq_true] at level
      subst level
      exact stop (by simpa using ended) links
  | case8 =>
      cases h
      exact there.elim
  | case11 place segments slash parent target rest eq level links path ih =>
      rw [eq] at stop
      exact stop links slash t (ih h (continues_descend fs _ _))
  | _ => cases h

theorem follow_of_arrives (h : Arrives fs links place segments slash t) :
    fs.follow .reading links place segments slash = .ok t ∧ t.IsThere := by
  induction h with
  | done => exact ⟨by rw [follow, descend], trivial⟩
  | stay here _ ih =>
      obtain ⟨walked, there⟩ := ih
      refine ⟨?_, there⟩
      rw [follow] at walked ⊢
      rwa [descend, if_pos here]
  | up above _ ih =>
      obtain ⟨walked, there⟩ := ih
      refine ⟨?_, there⟩
      rw [follow] at walked ⊢
      rwa [descend, if_neg (by simp [above]), if_pos above]
  | enter plain found _ ih =>
      obtain ⟨walked, there⟩ := ih
      refine ⟨?_, there⟩
      rw [follow] at walked ⊢
      rwa [descend, if_neg plain.1, if_neg plain.2, found]
  | file plain found =>
      refine ⟨?_, trivial⟩
      rw [follow, descend, if_neg plain.1, if_neg plain.2, found]
      rfl
  | link plain found _ ih =>
      obtain ⟨walked, there⟩ := ih
      refine ⟨?_, there⟩
      rw [follow, descend, if_neg plain.1, if_neg plain.2, found]
      simpa using walked

/-- A walk comes to something that is there exactly by its segments. -/
theorem follow_eq_ok_iff :
    fs.follow .reading links place segments slash = .ok t ∧ t.IsThere ↔
      Arrives fs links place segments slash t :=
  ⟨fun h => arrives_of_follow h.1 h.2, follow_of_arrives⟩

namespace Arrives

theorem of_stay {segment : String} {rest : List String}
    (h : Arrives fs links place (segment :: rest) slash t) (here : segment = ".") :
    Arrives fs links place rest slash t := by
  cases h with
  | stay _ next => exact next
  | up above => exact absurd (here.symm.trans above) (by decide)
  | enter plain => exact absurd here plain.1
  | file plain => exact absurd here plain.1
  | link plain => exact absurd here plain.1

theorem of_up {segment : String} {rest : List String}
    (h : Arrives fs links place (segment :: rest) slash t) (above : segment = "..") :
    Arrives fs links place.dropLast rest slash t := by
  cases h with
  | stay here => exact absurd (here.symm.trans above) (by decide)
  | up _ next => exact next
  | enter plain => exact absurd above plain.2
  | file plain => exact absurd above plain.2
  | link plain => exact absurd above plain.2

/-- No walk comes to two targets. -/
theorem unique {t' : Target} (h : Arrives fs links place segments slash t)
    (h' : Arrives fs links place segments slash t') : t = t' := by
  have walked := (follow_of_arrives h).1
  rw [(follow_of_arrives h').1] at walked
  cases walked
  rfl

/-- More links may be led through, and a slash at the end may be left out. -/
theorem weaken {more : Nat} {slash' : Bool} (h : Arrives fs links place segments slash t)
    (le : links ≤ more) (level : slash' = true → slash = true) :
    Arrives fs more place segments slash' t := by
  induction h generalizing more slash' with
  | done => exact .done
  | stay here _ ih => exact .stay here (ih le level)
  | up above _ ih => exact .up above (ih le level)
  | enter plain found _ ih => exact .enter plain found (ih le level)
  | file plain found =>
      cases slash' with
      | true => cases level rfl
      | false => exact .file plain found
  | link plain found _ ih =>
      obtain ⟨more, rfl⟩ := Nat.exists_eq_add_of_le' (Nat.le_of_add_left_le le)
      refine .link plain found (ih (Nat.le_of_add_le_add_right le) ?_)
      split
      · simp only [Bool.or_eq_true]
        exact Or.imp_left level
      · exact level

theorem mono {more : Nat} (h : Arrives fs links place segments slash t) (le : links ≤ more) :
    Arrives fs more place segments slash t := h.weaken le id

theorem level (h : Arrives fs links place segments slash t) :
    Arrives fs links place segments false t :=
  h.weaken (Nat.le_refl _) fun ends => absurd ends Bool.false_ne_true

/-- What is there in one tree is come to in another that has all of it. -/
theorem of_keeps {after : FileSystem} (h : Arrives fs links place segments slash t)
    (keeps : Keeps fs after) :
    Arrives after links place segments slash t := by
  induction h with
  | done => exact .done
  | stay here _ ih => exact .stay here ih
  | up above _ ih => exact .up above ih
  | enter plain found _ ih => exact .enter plain (keeps _ _ found) ih
  | file plain found => exact .file plain (keeps _ _ found)
  | link plain found _ ih => exact .link plain (keeps _ _ found) ih

/-- What a walk comes to is reached. -/
theorem reaches (h : Arrives fs links place segments slash t) :
    Reaches fs place segments t.location := by
  induction h with
  | done => exact .done
  | stay here _ ih => exact .stay here ih
  | up above _ ih => exact .up above ih
  | enter plain found _ ih => exact .enter plain (.inr found) ih
  | file plain found => exact .file plain found
  | link plain found _ ih => exact .link plain found ih

/-- Whoever goes along some segments and then along others comes to a directory in between. -/
theorem split {first rest : List String} (h : Arrives fs links place (first ++ rest) slash t)
    (more : rest ≠ []) :
    ∃ mid left, left ≤ links ∧ (∀ slash', Arrives fs links place first slash' (.directory mid)) ∧
      Arrives fs left mid rest slash t := by
  generalize whole : first ++ rest = segments at h
  induction h generalizing first with
  | done => exact absurd (List.append_eq_nil_iff.1 whole).2 more
  | @stay links place _ _ _ _ here next ih =>
      cases first with
      | nil =>
          cases whole
          exact ⟨place, links, Nat.le_refl _, fun _ => .done, .stay here next⟩
      | cons name first =>
          cases whole
          obtain ⟨mid, left, le, before, after⟩ := ih rfl
          exact ⟨mid, left, le, fun slash' => .stay here (before slash'), after⟩
  | @up links place _ _ _ _ above next ih =>
      cases first with
      | nil =>
          cases whole
          exact ⟨place, links, Nat.le_refl _, fun _ => .done, .up above next⟩
      | cons name first =>
          cases whole
          obtain ⟨mid, left, le, before, after⟩ := ih rfl
          exact ⟨mid, left, le, fun slash' => .up above (before slash'), after⟩
  | @enter links place _ _ _ _ plain found next ih =>
      cases first with
      | nil =>
          cases whole
          exact ⟨place, links, Nat.le_refl _, fun _ => .done, .enter plain found next⟩
      | cons name first =>
          cases whole
          obtain ⟨mid, left, le, before, after⟩ := ih rfl
          exact ⟨mid, left, le, fun slash' => .enter plain found (before slash'), after⟩
  | @file links place _ _ plain found =>
      cases first with
      | nil =>
          cases whole
          exact ⟨place, links, Nat.le_refl _, fun _ => .done, .file plain found⟩
      | cons name first => exact absurd (List.append_eq_nil_iff.1 (List.cons.inj whole).2).2 more
  | @link links place _ _ _ slash _ plain found next ih =>
      cases first with
      | nil =>
          cases whole
          exact ⟨place, links + 1, Nat.le_refl _, fun _ => .done, .link plain found next⟩
      | cons name first =>
          cases whole
          obtain ⟨mid, left, le, before, after⟩ := ih (List.append_assoc _ _ _)
          -- The segments behind the link end the walk, so a slash behind its path does not count.
          rw [if_neg (by simp [more])] at after
          exact ⟨mid, left, Nat.le_succ_of_le le, fun slash' => .link plain found (before _), after⟩

end Arrives

/-! ### Directories all the way -/

/-- A directory stands at a location, and at every location above it. -/
structure Settled (fs : FileSystem) (location : Location) : Prop where
  grounded : fs.Grounded location
  there : ∀ above, above <+: location → fs.find? above = some .directory

theorem settled_root (fs : FileSystem) : fs.Settled [] :=
  ⟨grounded_root fs, fun above within => by rw [List.prefix_nil.1 within, find?_root]⟩

namespace Settled

theorem above {above : Location} (h : fs.Settled place) (within : above <+: place) :
    fs.Settled above :=
  ⟨fun place name nearer => h.grounded place name (nearer.trans within), fun place nearer =>
    h.there place (nearer.trans within)⟩

theorem dropLast (h : fs.Settled place) : fs.Settled place.dropLast :=
  h.above (List.dropLast_prefix place)

theorem concat {name : String} (h : fs.Settled place) (is : IsName name) (plain : IsPlain name)
    (found : fs.find? (place ++ [name]) = some .directory) : fs.Settled (place ++ [name]) := by
  refine ⟨h.grounded.concat is plain (.inr found), fun above within => ?_⟩
  rcases List.prefix_concat_iff.1 within with rfl | within
  · exact found
  · exact h.there above within

/-- A link in such a directory begins in one. -/
theorem linkOrigin (h : fs.Settled place) (target : Path) :
    fs.Settled (linkOrigin place target) := by
  unfold FileSystem.linkOrigin
  split
  · exact settled_root fs
  · exact h

theorem origin (h : fs.Settled fs.cwd) (path : Path) : fs.Settled (fs.origin path) := by
  unfold FileSystem.origin
  split
  · exact settled_root fs
  · exact h

/-- The names of such a directory, in front of some segments, lead to the directory. -/
theorem arrives_append (h : fs.Settled place) (next : Arrives fs links place segments slash t) :
    Arrives fs links [] (place ++ segments) slash t := by
  suffices from_above : ∀ more above, above ++ more = place →
      Arrives fs links above (more ++ segments) slash t from from_above place [] rfl
  intro more
  induction more with
  | nil =>
      rintro above rfl
      rwa [List.append_nil] at next
  | cons name more ih =>
      intro above eq
      rw [← List.singleton_append, ← List.append_assoc] at eq
      have within : above ++ [name] <+: place := ⟨more, eq⟩
      exact .enter (h.grounded above name within).2.1 (h.there _ within) (ih _ eq)

end Settled

/-- A target is a directory, or a file in one, with directories all the way. -/
def Target.Settled (fs : FileSystem) : Target → Prop
  | .directory location => fs.Settled location
  | .file location =>
    ∃ parent name bytes, location = parent ++ [name] ∧ fs.Settled parent ∧ IsName name ∧
      IsPlain name ∧ fs.find? location = some (.file bytes)
  | .vacant _ _ => False

/-- A walk that begins in a settled directory ends at a settled target. -/
theorem Arrives.settled (h : Arrives fs links place segments slash t) (settled : fs.Settled place)
    (names : ∀ name ∈ segments, IsName name) : t.Settled fs := by
  induction h with
  | done => exact settled
  | stay _ _ ih => exact ih settled fun name mem => names name (List.mem_cons_of_mem _ mem)
  | up _ _ ih => exact ih settled.dropLast fun name mem => names name (List.mem_cons_of_mem _ mem)
  | enter plain found _ ih =>
      exact ih (settled.concat (names _ List.mem_cons_self) plain found) fun name mem =>
        names name (List.mem_cons_of_mem _ mem)
  | file plain found => exact ⟨_, _, _, rfl, settled, names _ List.mem_cons_self, plain, found⟩
  | link _ _ _ ih =>
      refine ih (settled.linkOrigin _) fun name mem => ?_
      rcases List.mem_append.1 mem with mem | mem
      · exact Path.isName_of_mem_segments mem
      · exact names name (List.mem_cons_of_mem _ mem)

namespace Target.Settled

/-- The names of what is settled lead to it. -/
theorem arrives (h : t.Settled fs) (links : Nat) : Arrives fs links [] t.location false t := by
  cases t with
  | directory location =>
      have whole := FileSystem.Settled.arrives_append h
        (.done : Arrives fs links location [] false _)
      rwa [List.append_nil] at whole
  | file location =>
      obtain ⟨parent, name, bytes, rfl, settled, -, plain, found⟩ := h
      exact settled.arrives_append (.file plain found)
  | vacant parent name => exact h.elim

/-- What is above something settled is settled. -/
theorem above {above : Location} (h : t.Settled fs) (within : above <+: t.location) :
    ∃ t' : Target, t'.Settled fs ∧ t'.location = above := by
  cases t with
  | directory location => exact ⟨.directory above, FileSystem.Settled.above h within, rfl⟩
  | file location =>
      obtain ⟨parent, name, bytes, rfl, settled, found⟩ := id h
      rcases List.prefix_concat_iff.1 within with rfl | nearer
      · exact ⟨.file (parent ++ [name]), h, rfl⟩
      · exact ⟨.directory above, settled.above nearer, rfl⟩
  | vacant parent name => exact h.elim

/-- The names on the way to something settled are plain. -/
theorem isPlain (h : t.Settled fs) : ∀ name ∈ t.location, IsName name ∧ IsPlain name := by
  cases t with
  | directory location => exact h.grounded.isPlain
  | file location =>
      obtain ⟨parent, name, bytes, rfl, settled, is, plain, found⟩ := h
      intro other mem
      rcases List.mem_append.1 mem with mem | mem
      · exact settled.grounded.isPlain other mem
      · exact List.mem_singleton.1 mem ▸ ⟨is, plain⟩
  | vacant parent name => exact h.elim

end Target.Settled

end FaceAnnotator.FileSystem
