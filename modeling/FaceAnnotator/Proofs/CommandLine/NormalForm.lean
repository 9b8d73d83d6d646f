import FaceAnnotator.Proofs.CommandLine.Paths
import Mathlib.Control.Monad.Basic
/-!
# FaceAnnotator.Proofs.CommandLine.NormalForm

**The place that is found for an output is in normal form.**

A place is in normal form when it is made of plain names, and no other location is told for it or
for anything above it (`IsNormal`). A place that is entered name by name stays so, be the names
those of directories, of links that lead somewhere or nowhere, or of nothing (`IsNormal.entered`),
and a place in normal form is entered as it stands (`IsNormal.enteredAll_self`). What is told for
a path is found step by step, because every link that its walk leads through can be followed on
its own (`enteredAll_of_arrives`).
-/

namespace FaceAnnotator

namespace FileSystem

variable {fs : FileSystem} {place real : Location} {path : Path} {links : Nat} {slash : Bool}
  {t : Target}

/-- A place whose names are plain, and that is its own location as far as it is there. -/
structure IsNormal (fs : FileSystem) (place : Location) : Prop where
  isPlain : ∀ name ∈ place, IsName name ∧ IsPlain name
  canonical :
    ∀ above real, above <+: place → fs.canonicalize (Path.ofLocation above) = .ok real →
      real = above

theorem Target.Settled.isNormal (h : t.Settled fs) : fs.IsNormal t.location :=
  ⟨h.isPlain, fun _ _ within told => eq_of_canonicalize_above h within told⟩

namespace IsNormal

theorem above {above : Location} (h : fs.IsNormal place) (within : above <+: place) :
    fs.IsNormal above :=
  ⟨fun name mem => h.isPlain name (within.subset mem), fun nearest real nearer =>
    h.canonical nearest real (nearer.trans within)⟩

/-- One name further there is a normal form, wherever the name leads. -/
theorem entered {segment : String} (h : fs.IsNormal place) (is : IsName segment)
    (here : segment ≠ ".") :
    fs.IsNormal (fs.entered place segment) := by
  unfold FileSystem.entered
  split
  · exact h.above (List.dropLast_prefix place)
  rename_i up
  split
  · rename_i real told
    have root : fs.Settled (fs.origin (Path.ofLocation (place ++ [segment]))) := by
      rw [origin_ofLocation]
      exact settled_root fs
    obtain ⟨t, settled, rfl⟩ := settled_of_canonicalize root told
    exact settled.isNormal
  · rename_i cause lost
    refine ⟨fun name mem => ?_, fun above real within told => ?_⟩
    · rcases List.mem_append.1 mem with mem | mem
      · exact h.isPlain name mem
      · exact List.mem_singleton.1 mem ▸ ⟨is, here, up⟩
    · rcases List.prefix_concat_iff.1 within with rfl | nearer
      · rw [lost] at told
        cases told
      · exact h.canonical above real nearer told

theorem enteredAll {segments : List String} (h : fs.IsNormal place)
    (names : ∀ name ∈ segments, IsName name ∧ name ≠ ".") :
    fs.IsNormal (fs.enteredAll place segments) := by
  induction segments generalizing place with
  | nil => exact h
  | cons segment rest ih =>
      obtain ⟨is, here⟩ := names segment List.mem_cons_self
      exact ih (h.entered is here) fun name mem => names name (List.mem_cons_of_mem _ mem)

theorem segments_ofLocation (h : fs.IsNormal place) : (Path.ofLocation place).segments = place :=
  Path.segments_ofLocation fun name mem => (h.isPlain name mem).1

theorem components_ofLocation (h : fs.IsNormal place) :
    (Path.ofLocation place).components = place := by
  rw [Path.components, h.segments_ofLocation, List.filter_eq_self]
  exact fun name mem => by simpa using (h.isPlain name mem).2.1

/-- A normal form is entered as it stands. -/
theorem enteredAll_self (h : fs.IsNormal place) : fs.enteredAll [] place = place := by
  suffices from_above : ∀ more above, above ++ more = place → fs.enteredAll above more = place from
    from_above place [] rfl
  intro more
  induction more with
  | nil =>
      rintro above rfl
      exact (List.append_nil above).symm
  | cons name more ih =>
      intro above eq
      rw [← List.singleton_append, ← List.append_assoc] at eq
      have plain : IsPlain name := (h.isPlain name (by simp [← eq])).2
      have next : fs.entered above name = above ++ [name] := by
        rw [FileSystem.entered, if_neg plain.2]
        split
        · rename_i real told
          exact h.canonical _ real ⟨more, eq⟩ told
        · rfl
      rw [FileSystem.enteredAll, List.foldl_cons, next]
      exact ih _ eq

end IsNormal

/-! ### Paths for which a location is told -/

/-- A walk through what can be addressed ends at the place that is entered, one name after the
other. -/
theorem enteredAll_of_arrives {segments : List String} (settled : fs.Settled place)
    (names : ∀ name ∈ segments, IsName name) (few : links ≤ maxLinks)
    (h : Arrives fs.addressable links place segments slash t) :
    fs.enteredAll place (segments.filter fun segment => segment != ".") = t.location := by
  induction segments generalizing place links slash with
  | nil =>
      cases h
      rfl
  | cons name rest ih =>
      have is : IsName name := names name List.mem_cons_self
      have others : ∀ other ∈ rest, IsName other :=
        fun other mem => names other (List.mem_cons_of_mem _ mem)
      by_cases here : name = "."
      · rw [List.filter_cons_of_neg (by simpa using here)]
        exact ih settled others few (h.of_stay here)
      rw [List.filter_cons_of_pos (by simpa using here), enteredAll, List.foldl_cons]
      by_cases up : name = ".."
      · rw [entered, if_pos up]
        exact ih settled.dropLast others few (h.of_up up)
      -- The name on its own leads to where the walk goes on, or to its end.
      have told : ∀ t' : Target, Arrives fs.addressable links place [name] false t' →
          fs.entered place name = t'.location := by
        intro t' alone
        rw [entered, if_neg up, canonicalize_concat settled is ⟨here, up⟩ (alone.mono few)]
      by_cases last : rest = []
      · subst last
        rw [told t h.level]
        rfl
      · have staged : Arrives fs.addressable links place ([name] ++ rest) slash t := h
        obtain ⟨mid, left, le, before, after⟩ := staged.split last
        rw [told _ (before false)]
        have inside : fs.Settled mid :=
          ((before false).of_keeps (keeps_addressable fs)).settled settled (by simpa using is)
        exact ih inside others (Nat.le_trans le few) after

/-- What is told for a path is the place that is entered. -/
theorem enteredAll_of_canonicalize (home : fs.Settled fs.cwd)
    (h : fs.canonicalize path = .ok real) :
    fs.enteredAll (fs.origin path) path.components = real := by
  obtain ⟨-, -, t, arrives, rfl⟩ := canonicalize_eq_ok_iff.1 h
  exact enteredAll_of_arrives (home.origin path) (fun name mem => Path.isName_of_mem_segments mem)
    (Nat.le_refl _) arrives

theorem sameFile_eq_true_iff {input output : Path} :
    fs.sameFile input output = true ↔
      fs.canonicalize input = .ok (fs.enteredAll (fs.origin output) output.components) := by
  unfold sameFile
  cases fs.canonicalize input with
  | error cause => simp
  | ok real => simp [eq_comm]

end FileSystem

namespace CommandLine

open FileSystem

theorem validated_eq_sameFile_iff {fs : FileSystem} {a : Arguments} {output : String}
    (written : a.output = some output) :
    validated fs a = .error (.sameFile output a.input) ↔
      fs.pathExists ⟨a.input⟩ ∧ a.progressEvery ≠ 0 ∧ fs.sameFile ⟨a.input⟩ ⟨output⟩ := by
  cases there : fs.pathExists ⟨a.input⟩ with
  | false => simp [validated, there]
  | true =>
      by_cases step : a.progressEvery = 0
      · simp [validated, there, step]
      · cases same : fs.sameFile ⟨a.input⟩ ⟨output⟩ <;> simp [validated, there, step, written, same]

/-- The place that is found for a path is in normal form: it is absolute, goes through plain names
only, and no other location is told for it or for anything above it, so it is found for itself
again. It is the location of the path whenever one is told; so an output that is there is refused
exactly if it has the location of the input. -/
theorem resolvePath_in_normal_form {w : World} (home : w.files.Settled w.files.cwd) (path : Path) :
    ∃ place, (resolvePath World.host path w).1 = some place ∧
      (Path.ofLocation place).absolute ∧ (Path.ofLocation place).segments = place ∧
      (∀ name ∈ place, name ≠ "." ∧ name ≠ "..") ∧
      (∀ above, above <+: place →
        (∀ real, w.files.canonicalize (Path.ofLocation above) = .ok real → real = above) ∧
        (w.files.addressable = w.files → w.files.pathExists (Path.ofLocation above) →
          w.files.canonicalize (Path.ofLocation above) = .ok above)) ∧
      (resolvePath World.host (Path.ofLocation place) w).1 = some place ∧
      ∀ real, w.files.canonicalize path = .ok real →
        place = real ∧
        (∀ input, (isSameFile World.host input path w).1 = true ↔
          w.files.canonicalize input = w.files.canonicalize path) ∧
        ∀ a : Arguments, a.output = some path.text →
          ((validate World.host a w).1 = .error (.sameFile path.text a.input) ↔
            w.files.pathExists ⟨a.input⟩ ∧ a.progressEvery ≠ 0 ∧
              w.files.canonicalize ⟨a.input⟩ = w.files.canonicalize path) := by
  have inside : (Target.directory (w.files.origin path)).Settled w.files := home.origin path
  have normal : w.files.IsNormal (w.files.enteredAll (w.files.origin path) path.components) := by
    refine inside.isNormal.enteredAll fun name mem => ?_
    obtain ⟨within, here⟩ := List.mem_filter.1 mem
    exact ⟨Path.isName_of_mem_segments within, by simpa using here⟩
  refine ⟨_, by rw [resolvePath_host], Path.absolute_ofLocation _, normal.segments_ofLocation,
    fun name mem => (normal.isPlain name mem).2, fun above within => ⟨fun real =>
    normal.canonical above real within, fun whole there => ?_⟩, ?_, fun real told => ?_⟩
  · obtain ⟨real, told⟩ := exists_canonicalize_of_pathExists whole there
    rw [told, normal.canonical above real within told]
  · rw [resolvePath_host, origin_ofLocation, normal.components_ofLocation, normal.enteredAll_self]
  · have found := enteredAll_of_canonicalize home told
    have same : ∀ input, w.files.sameFile input path = true ↔
        w.files.canonicalize input = w.files.canonicalize path := by
      intro input
      rw [sameFile_eq_true_iff, found, told]
    refine ⟨found, fun input => ?_, fun a written => ?_⟩
    · rw [isSameFile_host]
      exact same input
    · rw [validate_host, validated_eq_sameFile_iff written, same]

/-- A tree with a link to a directory, a link to nothing, and a link to itself. -/
def tangled : World where
  files :=
    { entries :=
        [(["home"], .directory), (["home", "a"], .directory), (["home", "a", "b"], .directory),
          (["home", "a", "f"], .file []), (["home", "l"], .link "a/b"),
          (["home", "dead"], .link "gone/x"), (["home", "loop"], .link "loop")]
      cwd := ["home"] }

theorem settled_tangled : tangled.files.Settled tangled.files.cwd := by
  have root := FileSystem.settled_root tangled.files
  exact root.concat ⟨by decide, by decide⟩ ⟨by decide, by decide⟩ (by decide)

theorem addressable_tangled : tangled.files.addressable = tangled.files :=
  addressable_eq_self (by decide +kernel)

/-- By way of a link that leads nowhere and one that leads to itself a file is found, and found
again for its own path; the directory above it is its own location. By way of a link and out of
where it leads the file is known for the same. -/
theorem resolvePath_in_normal_form_of_tangled :
    let path : Path := ⟨"dead/./../loop/../x/../l/../f"⟩
    let a : Arguments := { input := "a/b/../f", output := some "l/../f" }
    let file := ["home", "a", "f"]
    tangled.files.Settled tangled.files.cwd ∧
      (resolvePath World.host path tangled).1 = some file ∧
      (resolvePath World.host (Path.ofLocation file) tangled).1 = some file ∧
      tangled.files.canonicalize (Path.ofLocation ["home", "a"]) = .ok ["home", "a"] ∧
      tangled.files.canonicalize ⟨"l/../f"⟩ = .ok file ∧
      (resolvePath World.host ⟨"l/../f"⟩ tangled).1 = some file ∧
      (validate World.host a tangled).1 = .error (.sameFile "l/../f" "a/b/../f") := by
  intro path a file
  have found : (resolvePath World.host path tangled).1 = some file := by decide +kernel
  have told : tangled.files.canonicalize ⟨"l/../f"⟩ = .ok file := by decide +kernel
  obtain ⟨place, eq, -, -, -, canonical, again, -⟩ :=
    resolvePath_in_normal_form settled_tangled path
  rw [found] at eq
  cases eq
  have directory := (canonical ["home", "a"] ⟨["f"], rfl⟩).2 addressable_tangled (by decide +kernel)
  obtain ⟨place, resolved, -, -, -, -, -, exactly⟩ :=
    resolvePath_in_normal_form settled_tangled ⟨"l/../f"⟩
  obtain ⟨rfl, -, refused⟩ := exactly file told
  refine ⟨settled_tangled, found, again, directory, told, resolved, (refused a rfl).2 ⟨?_, ?_, ?_⟩⟩
  · decide +kernel
  · decide
  · decide +kernel

end CommandLine

end FaceAnnotator
