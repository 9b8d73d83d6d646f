import FaceAnnotator.Numeric.Binary
/-!
# FaceAnnotator.Telemetry.Series

**Running totals by name.**

A `Series` is what is left of many values: their sum and their count. A `Tally` holds one series for
each name that was ever used, in the order of the characters of the names. That order is part of the
type, so a tally is known by its look-ups alone (`Tally.ext_get?`).
-/

namespace FaceAnnotator

open Numeric

/-- The sum of some values and how many there were. -/
structure Series where
  /-- The sum, each value added to what was there before. -/
  total : Double := Binary.zero false
  /-- How many values there were. -/
  count : Nat := 0
deriving DecidableEq

namespace Series

/-- The series with one more value. -/
def push (s : Series) (value : Double) : Series := ⟨s.total.add value, s.count + 1⟩

/-- The sum divided by the count; zero if there are no values. -/
def mean (s : Series) : Double :=
  if s.count = 0 then Binary.zero false else s.total.div (Binary.ofNat s.count)

/-- The series of some values in order. -/
def ofList (values : List Double) : Series := values.foldl push {}

@[simp] theorem count_push (s : Series) (value : Double) : (s.push value).count = s.count + 1 := rfl
@[simp] theorem total_push (s : Series) (value : Double) :
    (s.push value).total = s.total.add value := rfl

end Series

/-- Series by name. -/
structure Tally where
  /-- Each name with its series. -/
  entries : List (String × Series) := []
  /-- The names stand in order, each only once. -/
  ascending : entries.Pairwise (fun a b => a.1 < b.1) := by simp

namespace Tally

/-- The series of a name in a list that is in order. -/
def find (name : String) : List (String × Series) → Option Series
  | [] => none
  | (other, series) :: entries => if name = other then some series else find name entries

/-- One more value for a name in a list that is in order. -/
def insert (name : String) (value : Double) : List (String × Series) → List (String × Series)
  | [] => [(name, Series.push {} value)]
  | (other, series) :: entries =>
    if name = other then (other, series.push value) :: entries
    else if name < other then (name, Series.push {} value) :: (other, series) :: entries
    else (other, series) :: insert name value entries

/-- A value adds at most its own name. -/
theorem name_of_mem_insert {name : String} {value : Double} {entries : List (String × Series)}
    {e : String × Series} (h : e ∈ insert name value entries) :
    e.1 = name ∨ ∃ old ∈ entries, e.1 = old.1 := by
  induction entries with
  | nil =>
    simp only [insert, List.mem_singleton] at h
    exact .inl (by rw [h])
  | cons head entries ih =>
    obtain ⟨other, series⟩ := head
    unfold insert at h
    split at h
    · rename_i same
      cases List.mem_cons.1 h with
      | inl eq => exact .inl (by rw [eq, same])
      | inr mem => exact .inr ⟨e, List.mem_cons_of_mem _ mem, rfl⟩
    · split at h
      · cases List.mem_cons.1 h with
        | inl eq => exact .inl (by rw [eq])
        | inr mem => exact .inr ⟨e, mem, rfl⟩
      · cases List.mem_cons.1 h with
        | inl eq => exact .inr ⟨_, List.mem_cons_self, by rw [eq]⟩
        | inr mem =>
          cases ih mem with
          | inl eq => exact .inl eq
          | inr found =>
            obtain ⟨old, mem, eq⟩ := found
            exact .inr ⟨old, List.mem_cons_of_mem _ mem, eq⟩

theorem ascending_insert (name : String) (value : Double) {entries : List (String × Series)}
    (h : entries.Pairwise (fun a b => a.1 < b.1)) :
    (insert name value entries).Pairwise (fun a b => a.1 < b.1) := by
  induction entries with
  | nil => simp [insert]
  | cons head entries ih =>
    obtain ⟨other, series⟩ := head
    obtain ⟨least, rest⟩ := List.pairwise_cons.1 h
    unfold insert
    split
    · exact List.pairwise_cons.2 ⟨least, rest⟩
    · split
      · rename_i before
        refine List.pairwise_cons.2 ⟨fun e mem => ?_, h⟩
        cases List.mem_cons.1 mem with
        | inl eq => rw [eq]; exact before
        | inr mem => exact String.lt_trans before (least e mem)
      · rename_i distinct before
        refine List.pairwise_cons.2 ⟨fun e mem => ?_, ih rest⟩
        cases name_of_mem_insert mem with
        | inl eq =>
          rw [eq]
          exact Std.lt_of_le_of_ne (String.not_lt.1 before) (Ne.symm distinct)
        | inr found =>
          obtain ⟨old, mem, eq⟩ := found
          rw [eq]
          exact least old mem

/-- The series of a name, if the name was ever used. -/
def get? (t : Tally) (name : String) : Option Series := find name t.entries

/-- The tally with one more value for a name. -/
def record (t : Tally) (name : String) (value : Double) : Tally :=
  ⟨insert name value t.entries, ascending_insert name value t.ascending⟩

/-- Whether no name was ever used. -/
def isEmpty (t : Tally) : Bool := t.entries.isEmpty

theorem find_eq_none {name : String} {entries : List (String × Series)}
    (h : ∀ e ∈ entries, name ≠ e.1) : find name entries = none := by
  induction entries with
  | nil => rfl
  | cons head entries ih =>
    obtain ⟨other, series⟩ := head
    rw [find, if_neg (h _ List.mem_cons_self)]
    exact ih fun e mem => h e (List.mem_cons_of_mem _ mem)

theorem find_insert (name other : String) (value : Double) {entries : List (String × Series)}
    (h : entries.Pairwise (fun a b => a.1 < b.1)) :
    find other (insert name value entries) =
      if other = name then some (((find name entries).getD {}).push value)
      else find other entries := by
  induction entries with
  | nil => by_cases same : other = name <;> simp [insert, find, same]
  | cons head entries ih =>
    obtain ⟨first, series⟩ := head
    obtain ⟨least, rest⟩ := List.pairwise_cons.1 h
    unfold insert
    split
    · rename_i eq
      subst eq
      by_cases same : other = name <;> simp [find, same]
    · rename_i distinct
      split
      · rename_i before
        have absent : find name entries = none :=
          find_eq_none fun e mem eq => String.lt_irrefl name
            (String.lt_trans before (eq ▸ least e mem))
        by_cases same : other = name <;> simp [find, same, distinct, absent]
      · by_cases same : other = first
        · subst same
          simp [find, Ne.symm distinct]
        · simp [find, same, distinct, ih rest]

/-- The least name of a list that is in order is the first one. -/
theorem find_eq_none_of_lt {name first : String} {series : Series}
    {entries : List (String × Series)}
    (h : ((first, series) :: entries).Pairwise (fun a b => a.1 < b.1)) (before : name < first) :
    find name ((first, series) :: entries) = none := by
  refine find_eq_none fun e mem eq => ?_
  cases List.mem_cons.1 mem with
  | inl same =>
    rw [eq, same] at before
    exact String.lt_irrefl _ before
  | inr mem =>
    have after := (List.pairwise_cons.1 h).1 e mem
    exact String.lt_irrefl name (String.lt_trans before (eq ▸ after))

/-- Lists in order with the same look-ups are the same. -/
theorem eq_of_find_eq {xs ys : List (String × Series)}
    (hx : xs.Pairwise (fun a b => a.1 < b.1)) (hy : ys.Pairwise (fun a b => a.1 < b.1))
    (h : ∀ name, find name xs = find name ys) : xs = ys := by
  induction xs generalizing ys with
  | nil =>
    cases ys with
    | nil => rfl
    | cons head ys =>
      have := h head.1
      simp [find] at this
  | cons head xs ih =>
    obtain ⟨name, series⟩ := head
    cases ys with
    | nil =>
      have := h name
      simp [find] at this
    | cons head ys =>
      obtain ⟨other, series'⟩ := head
      have same : name = other := by
        rcases Std.lt_trichotomy name other with before | eq | after
        · have := h name
          rw [find_eq_none_of_lt hy before] at this
          simp [find] at this
        · exact eq
        · have := h other
          rw [find_eq_none_of_lt hx after] at this
          simp [find] at this
      subst same
      have first : series = series' := by simpa [find] using h name
      subst first
      obtain ⟨leastx, restx⟩ := List.pairwise_cons.1 hx
      obtain ⟨leasty, resty⟩ := List.pairwise_cons.1 hy
      rw [ih restx resty fun key => ?_]
      by_cases eq : key = name
      · subst eq
        rw [find_eq_none fun e mem eq => String.lt_irrefl _ (eq ▸ leastx e mem),
          find_eq_none fun e mem eq => String.lt_irrefl _ (eq ▸ leasty e mem)]
      · simpa [find, eq] using h key

/-- A tally is known by its look-ups. -/
theorem ext_get? {s t : Tally} (h : ∀ name, s.get? name = t.get? name) : s = t := by
  obtain ⟨xs, hx⟩ := s
  obtain ⟨ys, hy⟩ := t
  have := eq_of_find_eq hx hy h
  subst this
  rfl

/-- A value goes to the series of its own name and to no other. -/
theorem get?_record (t : Tally) (name : String) (value : Double) (other : String) :
    (t.record name value).get? other =
      if other = name then some (((t.get? name).getD {}).push value) else t.get? other :=
  find_insert name other value t.ascending

end Tally

end FaceAnnotator
