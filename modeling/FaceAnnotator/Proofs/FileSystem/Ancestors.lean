import FaceAnnotator.Proofs.FileSystem.Path
import Mathlib.Data.List.TakeWhile
/-!
# FaceAnnotator.Proofs.FileSystem.Ancestors

**The path of a directory above is the beginning of a path.**

It is cut off the text behind one of the segments, so its segments are the first ones of the path
(`begins_of_mem_ancestors`). This is said of texts in reverse first, as `Path.parent?` reads them.
-/

namespace FaceAnnotator

namespace Text

/-- What is on the two sides of a separator is split apart on its own. -/
theorem splitAt_append_separator (separator : Char) (text more : List Char) :
    splitAt separator (text ++ separator :: more) =
      splitAt separator text ++ splitAt separator more := by
  induction size : text.length using Nat.strongRecOn generalizing text with
  | _ n ih =>
      by_cases mem : separator ∈ text
      · obtain ⟨part, rest, rfl, fresh⟩ := List.eq_append_cons_of_mem mem
        have shorter : rest.length < n := by
          rw [List.length_append, List.length_cons] at size
          omega
        rw [List.append_assoc, List.cons_append, splitAt_append_cons fresh,
          splitAt_append_cons fresh, ih rest.length shorter rest rfl, List.cons_append]
      · rw [splitAt_append_cons mem, splitAt_of_not_mem mem, List.singleton_append]

end Text

namespace Path

/-- A path is the beginning of another, up to the end of a segment. -/
structure Begins (p q : Path) : Prop where
  text : p.text.toList <+: q.text.toList
  segments : p.segments <+: q.segments

theorem Begins.trans {p q r : Path} (h : p.Begins q) (h' : q.Begins r) : p.Begins r :=
  ⟨h.text.trans h'.text, h.segments.trans h'.segments⟩

/-- A text that is cut off before a slash. -/
theorem begins_of_slash {p q : Path} (more : List Char)
    (h : q.text.toList = p.text.toList ++ '/' :: more) :
    p.Begins q := by
  refine ⟨⟨_, h.symm⟩, ?_⟩
  rw [segments, segments, h, Text.splitAt_append_separator, List.filter_append, List.map_append]
  exact List.prefix_append _ _

/-- The path of nothing, and the root. -/
theorem begins_of_segments_eq_nil {p q : Path} (text : p.text.toList <+: q.text.toList)
    (h : p.segments = []) : p.Begins q :=
  ⟨text, h ▸ List.nil_prefix⟩

/-! ### Texts in reverse -/

/-- What is idle ends in a slash, if anything is left behind it. -/
theorem withoutIdle_cases (text : List Char) :
    withoutIdle text = text ∨ withoutIdle text = [] ∨
      ∃ idle, text = idle ++ '/' :: withoutIdle text := by
  fun_induction withoutIdle text with
  | case1 rest ih =>
      rcases ih with same | none | ⟨idle, eq⟩
      · exact .inr (.inr ⟨[], by rw [same]; rfl⟩)
      · exact .inr (.inl none)
      · exact .inr (.inr ⟨'/' :: idle, congrArg _ eq⟩)
  | case2 => exact .inr (.inl rfl)
  | case3 rest ih =>
      rcases ih with same | none | ⟨idle, eq⟩
      · exact .inr (.inr ⟨['.'], by rw [same]; rfl⟩)
      · exact .inr (.inl none)
      · exact .inr (.inr ⟨'.' :: '/' :: idle, congrArg (fun more => '.' :: '/' :: more) eq⟩)
  | case4 => exact .inl rfl

theorem withoutIdle_suffix (text : List Char) : withoutIdle text <:+ text := by
  rcases withoutIdle_cases text with same | none | ⟨idle, eq⟩
  · exact same.symm ▸ List.suffix_rfl
  · exact none.symm ▸ List.nil_suffix
  · exact ⟨idle ++ ['/'], by rw [List.append_assoc]; exact eq.symm⟩

/-- The last segment stands before a slash, if anything is left behind it. -/
theorem withoutLast_cases (text : List Char) :
    withoutLast text = [] ∨ ∃ last, text = last ++ '/' :: withoutLast text := by
  by_cases mem : '/' ∈ text
  · obtain ⟨last, rest, rfl, fresh⟩ := List.eq_append_cons_of_mem mem
    have plain : ∀ c ∈ last, decide (c ≠ '/') = true := fun c within =>
      decide_eq_true fun slash => fresh (slash ▸ within)
    have cut : withoutLast (last ++ '/' :: rest) = rest := by
      rw [withoutLast, List.dropWhile_append_of_pos plain]
      rfl
    exact .inr ⟨last, by rw [cut]⟩
  · have plain : ∀ c ∈ text, decide (c ≠ '/') = true := fun c within =>
      decide_eq_true fun slash => mem (slash ▸ within)
    exact .inl (by rw [withoutLast, List.dropWhile_eq_nil_iff.2 plain]; rfl)

/-- What is left of a text in reverse without its last segment stands behind a slash, if it is
anything. -/
theorem parent_cases (text : List Char) :
    let left := withoutIdle (withoutLast (withoutIdle text))
    left = [] ∨ ∃ gone, text = gone ++ '/' :: left := by
  intro left
  obtain ⟨idle, whole⟩ := withoutIdle_suffix text
  rcases withoutLast_cases (withoutIdle text) with none | ⟨last, eq⟩
  · exact .inl (by simp only [left, none]; rfl)
  · rw [eq] at whole
    rcases withoutIdle_cases (withoutLast (withoutIdle text)) with same | none | ⟨more, eq'⟩
    · refine .inr ⟨idle ++ last, ?_⟩
      simp only [left, same]
      rw [List.append_assoc, whole]
    · exact .inl none
    · refine .inr ⟨idle ++ last ++ '/' :: more, ?_⟩
      rw [eq'] at whole
      exact whole.symm.trans (by simp [left])

/-! ### Paths -/

/-- What a path begins with is a beginning of it, unless it is all of it. -/
theorem begins_splitStart {p : Path} (h : (splitStart p.text.toList).2 ≠ []) :
    Begins ⟨String.ofList (splitStart p.text.toList).1⟩ p := by
  generalize whole : p.text.toList = text at h ⊢
  fun_cases splitStart text with
  | case1 rest =>
      have root : segments ⟨String.ofList ['/']⟩ = [] := by decide
      exact begins_of_segments_eq_nil ⟨rest, by rw [whole]; simp⟩ root
  | case2 => exact absurd rfl h
  | case3 rest => exact begins_of_slash rest (by rw [whole]; simp)
  | case4 =>
      have nothing : segments ⟨String.ofList []⟩ = [] := by decide
      exact begins_of_segments_eq_nil (by simp) nothing

theorem begins_parent {p q : Path} (h : p.parent? = some q) : q.Begins p := by
  unfold parent? at h
  dsimp only at h
  split at h
  · split at h
    · cases h
      exact begins_of_segments_eq_nil (by simp) (by decide)
    · cases h
  · rename_i some_left
    cases h
    rcases parent_cases (splitStart p.text.toList).2.reverse with none | ⟨gone, eq⟩
    · rw [none, List.reverse_nil, List.append_nil]
      refine begins_splitStart fun nothing => ?_
      rw [nothing] at some_left
      exact some_left rfl
    · have body := congrArg List.reverse eq
      rw [List.reverse_reverse, List.reverse_append, List.reverse_cons] at body
      have whole := splitStart_append p.text.toList
      rw [body] at whole
      exact begins_of_slash gone.reverse (whole.symm.trans (by simp))

/-- The paths of the directories above are beginnings of the path. -/
theorem begins_of_mem_ancestors {p q : Path} (h : p ∈ q.ancestors) : p.Begins q := by
  fun_induction Path.ancestors q with
  | case1 => cases h
  | case2 q parent above ih =>
      rcases List.mem_cons.1 h with rfl | mem
      · exact begins_parent above
      · exact (ih mem).trans (begins_parent above)

end Path

end FaceAnnotator
