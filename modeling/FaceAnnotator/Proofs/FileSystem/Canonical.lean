import FaceAnnotator.Proofs.FileSystem.Arrival
/-!
# FaceAnnotator.Proofs.FileSystem.Canonical

**Which location is told for a path.**

It is told by a walk through what of the tree can be addressed (`canonicalize_eq_ok_iff`). What is
found there is found in the tree as well (`keeps_addressable`), so a location that is told has
directories all the way (`settled_of_canonicalize`), and on the way to it nothing but itself is told
for any location (`eq_of_canonicalize_above`). The other way round, whatever is above a location
that can be addressed can be addressed, so a name that leads on from a directory does so from the
root, too (`canonicalize_concat`).
-/

namespace FaceAnnotator.FileSystem

variable {fs : FileSystem} {location place real : Location} {path : Path} {t : Target}

/-! ### What can be addressed -/

theorem findEntry_filter (keep : Location → Bool) (location : Location)
    (entries : List (Location × Entry)) :
    findEntry location (entries.filter fun (place, _) => keep place) =
      if keep location then findEntry location entries else none := by
  induction entries with
  | nil => simp [findEntry]
  | cons head entries ih =>
      obtain ⟨place, entry⟩ := head
      by_cases here : place = location
      · subst here
        by_cases kept : keep place <;> simp [findEntry, kept, ih]
      · by_cases kept : keep place <;> simp [findEntry, kept, ih, here]

theorem find?_addressable (fs : FileSystem) (location : Location) :
    fs.addressable.find? location = if location.isAddressable then fs.find? location else none := by
  by_cases root : location = []
  · subst root
    rw [find?_root, find?_root, if_pos (by decide)]
  · rw [find?, if_neg root, find?, if_neg root]
    exact findEntry_filter _ _ _

theorem keeps_addressable (fs : FileSystem) : Keeps fs.addressable fs := by
  intro location entry found
  rw [find?_addressable] at found
  split at found
  · exact found
  · cases found

theorem isAddressable_of_find? {entry : Entry}
    (found : fs.addressable.find? location = some entry) :
    location.isAddressable := by
  rw [find?_addressable] at found
  split at found
  · assumption
  · cases found

theorem Settled.addressable (h : fs.Settled location) (named : location.isAddressable) :
    fs.addressable.Settled location := by
  have there : ∀ above, above <+: location → fs.addressable.find? above = some .directory := by
    intro above within
    rw [find?_addressable, if_pos (Location.isAddressable_of_prefix within named)]
    exact h.there above within
  refine ⟨fun above name within => ?_, there⟩
  obtain ⟨is, plain, -⟩ := h.grounded above name within
  exact ⟨is, plain, .inr (there _ within)⟩

theorem addressable_eq_self (h : fs.addressable.entries = fs.entries) : fs.addressable = fs :=
  congrArg (FileSystem.mk · fs.cwd) h

/-- A plain name that leads to something can be addressed. -/
theorem isAddressable_of_arrives {links : Nat} {name : String} {rest : List String} {slash : Bool}
    (plain : IsPlain name) (h : Arrives fs.addressable links place (name :: rest) slash t) :
    Location.isAddressable (place ++ [name]) := by
  cases h with
  | stay here => exact absurd here plain.1
  | up above => exact absurd above plain.2
  | enter _ found => exact isAddressable_of_find? found
  | file _ found => exact isAddressable_of_find? found
  | link _ found => exact isAddressable_of_find? found

/-! ### Locations that are told -/

@[simp] theorem origin_ofLocation (fs : FileSystem) (location : Location) :
    fs.origin (Path.ofLocation location) = [] := by simp [origin]

theorem canonicalize_eq_ok_iff :
    fs.canonicalize path = .ok real ↔ ¬path.isCut ∧ ¬path.isEmpty ∧ ∃ t,
      Arrives fs.addressable maxLinks (fs.origin path) path.segments path.slash t ∧
      t.location = real := by
  have told : fs.canonicalize path = .ok real ↔
      ∃ t, fs.addressable.walk .reading path = .ok t ∧ t.IsThere ∧ t.location = real := by
    unfold canonicalize
    cases fs.addressable.walk .reading path with
    | error cause => simp
    | ok t => cases t <;> simp [Target.IsThere]
  rw [told]
  constructor
  · rintro ⟨t, walked, there, eq⟩
    obtain ⟨whole, some_text, followed⟩ := walk_eq_ok_iff.1 walked
    exact ⟨whole, some_text, t, follow_eq_ok_iff.1 ⟨followed, there⟩, eq⟩
  · rintro ⟨whole, some_text, t, arrives, eq⟩
    obtain ⟨followed, there⟩ := follow_eq_ok_iff.2 arrives
    exact ⟨t, walk_eq_ok_iff.2 ⟨whole, some_text, followed⟩, there, eq⟩

/-- What is told for a path stands where the path leads in the tree. -/
theorem arrives_of_canonicalize (h : fs.canonicalize path = .ok real) :
    ∃ t, Arrives fs maxLinks (fs.origin path) path.segments path.slash t ∧ t.location = real := by
  obtain ⟨-, -, t, arrives, eq⟩ := canonicalize_eq_ok_iff.1 h
  exact ⟨t, arrives.of_keeps (keeps_addressable fs), eq⟩

/-- Nothing else is told for a path than the location that it leads to. -/
theorem eq_of_canonicalize (told : fs.canonicalize path = .ok real)
    (walked : fs.walk .reading path = .ok t) :
    real = t.location := by
  obtain ⟨t', arrives, rfl⟩ := arrives_of_canonicalize told
  obtain ⟨-, -, followed⟩ := walk_eq_ok_iff.1 walked
  rw [(follow_of_arrives arrives).1] at followed
  cases followed
  rfl

theorem arrives_of_canonicalize_ofLocation (names : ∀ name ∈ location, IsName name)
    (h : fs.canonicalize (Path.ofLocation location) = .ok real) :
    ∃ t, Arrives fs maxLinks [] location false t ∧ t.location = real := by
  obtain ⟨t, arrives, eq⟩ := arrives_of_canonicalize h
  rw [origin_ofLocation, Path.segments_ofLocation names] at arrives
  exact ⟨t, arrives.level, eq⟩

/-- A path that names a place in full leads to where the names of the place lead. -/
theorem reaches_of_canonicalize (names : ∀ name ∈ location, IsName name)
    (h : fs.canonicalize (Path.ofLocation location) = .ok real) : Reaches fs [] location real := by
  obtain ⟨t, arrives, rfl⟩ := arrives_of_canonicalize_ofLocation names h
  exact arrives.reaches

/-- In a tree that can be addressed as a whole, a location is told for every path that
something stands at. -/
theorem exists_canonicalize_of_pathExists (whole : fs.addressable = fs) (h : fs.pathExists path) :
    ∃ real, fs.canonicalize path = .ok real := by
  unfold pathExists at h
  split at h
  · rename_i location found
    exact ⟨location, by rw [canonicalize, whole, walk_of_resolve found]; rfl⟩
  · rename_i location found
    exact ⟨location, by rw [canonicalize, whole, walk_of_resolve found]; rfl⟩
  · cases h

/-- What is told for a path has directories all the way. -/
theorem settled_of_canonicalize (settled : fs.Settled (fs.origin path))
    (h : fs.canonicalize path = .ok real) : ∃ t : Target, t.Settled fs ∧ t.location = real := by
  obtain ⟨t, arrives, eq⟩ := arrives_of_canonicalize h
  exact ⟨t, arrives.settled settled fun name mem => Path.isName_of_mem_segments mem, eq⟩

/-- On the way to something that has directories all the way, nothing else is told for a location
than the location. -/
theorem eq_of_canonicalize_above {above : Location} (settled : t.Settled fs)
    (within : above <+: t.location) (h : fs.canonicalize (Path.ofLocation above) = .ok real) :
    real = above := by
  obtain ⟨t', nearer, rfl⟩ := settled.above within
  obtain ⟨other, arrives, rfl⟩ :=
    arrives_of_canonicalize_ofLocation (fun name mem => (nearer.isPlain name mem).1) h
  rw [arrives.unique (nearer.arrives maxLinks)]

/-- What one more name leads to from a directory is told. -/
theorem canonicalize_concat {name : String} (settled : fs.Settled place) (is : IsName name)
    (plain : IsPlain name) (h : Arrives fs.addressable maxLinks place [name] false t) :
    fs.canonicalize (Path.ofLocation (place ++ [name])) = .ok t.location := by
  have named := isAddressable_of_arrives plain h
  have inside :=
    settled.addressable (Location.isAddressable_of_prefix (List.prefix_append place [name]) named)
  rw [canonicalize_eq_ok_iff, origin_ofLocation,
    Path.segments_ofLocation (settled.grounded.isName_concat is), Path.slash_ofLocation_concat is,
    Path.isEmpty_ofLocation]
  simp only [Location.isAddressable, Bool.and_eq_true, Bool.not_eq_true'] at named
  exact ⟨by simp [named], by simp, t, inside.arrives_append h, rfl⟩

end FaceAnnotator.FileSystem
