import FaceAnnotator.FileSystem.Path
/-!
# FaceAnnotator.Proofs.FileSystem.Path

**A location, written as a path and taken apart again, is the same location.**

What stands between two slashes is never nothing and holds no slash (`IsName`). A location made of
such names can be told from its text (`segments_ofLocation`). The text of a location above another
one is the beginning of its text, so it can be followed if that one can (`isAddressable_of_prefix`).
-/

namespace FaceAnnotator

namespace Text

theorem splitAt_of_not_mem {separator : Char} {part : List Char} (h : separator ∉ part) :
    splitAt separator part = [part] := by
  induction part with
  | nil => rfl
  | cons c part ih =>
      rw [List.mem_cons, not_or] at h
      rw [splitAt, if_neg (Ne.symm h.1), ih h.2]

theorem splitAt_append_cons {separator : Char} {part : List Char} (h : separator ∉ part)
    (text : List Char) :
    splitAt separator (part ++ separator :: text) = part :: splitAt separator text := by
  induction part with
  | nil => rw [List.nil_append, splitAt, if_pos rfl]
  | cons c part ih =>
      rw [List.mem_cons, not_or] at h
      rw [List.cons_append, splitAt, if_neg (Ne.symm h.1), ih h.2]

end Text

/-- Whether a text can stand between two slashes of a path. -/
def IsName (name : String) : Prop := name ≠ "" ∧ '/' ∉ name.toList

namespace Path

theorem isName_of_mem_segments {p : Path} {name : String} (h : name ∈ p.segments) :
    IsName name := by
  obtain ⟨part, mem, rfl⟩ := List.mem_map.1 h
  obtain ⟨mem, nonempty⟩ := List.mem_filter.1 mem
  refine ⟨fun eq => ?_, ?_⟩
  · rw [String.ofList_eq_empty_iff] at eq
    simp [eq] at nonempty
  · rw [String.toList_ofList]
    exact Text.separator_not_mem_of_mem_splitAt mem

theorem toList_text_ofLocation {location : Location} (h : location ≠ []) :
    (ofLocation location).text.toList = location.flatMap fun name => '/' :: name.toList := by
  have nonempty : location.isEmpty = false := by simpa using h
  simp [ofLocation, Location.text, nonempty, String.toList_join, List.flatMap_map]

@[simp] theorem absolute_ofLocation (location : Location) :
    (ofLocation location).absolute = true := by
  cases location with
  | nil => decide
  | cons name rest => simp [absolute, toList_text_ofLocation]

/-- A text and, behind slashes, some names fall into just these parts. -/
theorem splitAt_append_flatMap {part : List Char} (hpart : '/' ∉ part) {names : List String}
    (h : ∀ name ∈ names, IsName name) :
    Text.splitAt '/' (part ++ names.flatMap fun name => '/' :: name.toList) =
      part :: names.map String.toList := by
  induction names generalizing part with
  | nil => simpa using Text.splitAt_of_not_mem hpart
  | cons name names ih =>
      have first := h name List.mem_cons_self
      have rest := ih first.2 fun other mem => h other (List.mem_cons_of_mem name mem)
      rw [List.flatMap_cons, List.cons_append, Text.splitAt_append_cons hpart, rest, List.map_cons]

theorem segments_ofLocation {location : Location} (h : ∀ name ∈ location, IsName name) :
    (ofLocation location).segments = location := by
  cases location with
  | nil => decide
  | cons name rest =>
      have parts := splitAt_append_flatMap (List.not_mem_nil : '/' ∉ []) h
      rw [List.nil_append] at parts
      have kept : ((name :: rest).map String.toList).filter (fun part => !part.isEmpty) =
          (name :: rest).map String.toList := by
        rw [List.filter_eq_self]
        intro part mem
        obtain ⟨other, among, rfl⟩ := List.mem_map.1 mem
        simpa using (h other among).1
      rw [segments, toList_text_ofLocation (List.cons_ne_nil _ _), parts,
        List.filter_cons_of_neg (by simp), kept, List.map_map]
      simp

theorem isEmpty_ofLocation (location : Location) : (ofLocation location).isEmpty = false := by
  have begins := absolute_ofLocation location
  rw [isEmpty, decide_eq_false_iff_not]
  intro nothing
  rw [absolute, nothing] at begins
  simp at begins

/-- A location that ends in a name is written without a slash at the end. -/
theorem slash_ofLocation_concat {place : Location} {name : String} (h : IsName name) :
    (ofLocation (place ++ [name])).slash = false := by
  have last : name.toList ≠ [] := by simpa using h.1
  rw [slash, decide_eq_false_iff_not, toList_text_ofLocation (by simp), List.flatMap_append,
    List.flatMap_singleton, List.getLast?_append, List.getLast?_cons_of_ne_nil last,
    List.getLast?_eq_some_getLast last, Option.some_or]
  exact fun ends => h.2 (Option.some.inj ends ▸ List.getLast_mem last)

/-- The text of a location above is the beginning of a text. -/
theorem text_ofLocation_prefix {above location : Location} (within : above <+: location) :
    (ofLocation above).text.toList <+: (ofLocation location).text.toList := by
  obtain ⟨more, rfl⟩ := within
  by_cases top : above = []
  · subst top
    rw [List.nil_append]
    cases more with
    | nil => exact List.prefix_rfl
    | cons name more =>
        rw [toList_text_ofLocation (List.cons_ne_nil name more)]
        exact ⟨_, rfl⟩
  · rw [toList_text_ofLocation top, toList_text_ofLocation (by simp [top]), List.flatMap_append]
    exact List.prefix_append _ _

end Path

/-- What is above a location that can be followed can be followed, too. -/
theorem Location.isAddressable_of_prefix {above location : Location} (within : above <+: location)
    (h : Location.isAddressable location) : Location.isAddressable above := by
  obtain ⟨more, text⟩ := Path.text_ofLocation_prefix within
  have whole : (Path.ofLocation location).text =
      (Path.ofLocation above).text ++ String.ofList more := by
    rw [← String.toList_inj, String.toList_append, String.toList_ofList, text]
  simp only [Location.isAddressable, Path.isCut, Path.isOverlong, whole, String.toList_append,
    String.utf8ByteSize_append, List.contains_eq_mem, List.mem_append, Bool.and_eq_true,
    Bool.not_eq_true', decide_eq_false_iff_not, not_or, Nat.not_le] at h ⊢
  exact ⟨h.1.1, Nat.lt_of_add_right_lt h.2⟩

end FaceAnnotator
