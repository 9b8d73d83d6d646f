import FaceAnnotator.Label.Decoding
import FaceAnnotator.Proofs.Numeric.Exact
/-!
# FaceAnnotator.Proofs.Label.Emotion

**An emotion is told by the first maximum**, also among words that are no numbers.

Words are compared by their positions here, so the two zeros are equal and infinities are the
greatest and the least of all. A word that is no number is neither greater nor less than any other.
That is why it stays the best one if it comes first, and never becomes the best one otherwise.

The search for the maximum is followed word by word: what was found among the words seen so
far is their first maximum, and one more word leaves it so (`IsFirstMaximum.keep`) or takes
its place (`IsFirstMaximum.replace`).
-/

namespace FaceAnnotator.Label

open Numeric

/-- At this index stands a number that no other number of the data exceeds. -/
def IsMaximum (data : List Single) (index : Nat) : Prop :=
  ∃ v, data[index]? = some v ∧ v.isNaN = false ∧
    ∀ w ∈ data, w.isNaN = false → w.position ≤ v.position

/-- At this index stands the first of the greatest numbers. -/
structure IsFirstMaximum (data : List Single) (index : Nat) : Prop where
  isMaximum : IsMaximum data index
  le : ∀ other, IsMaximum data other → index ≤ other

namespace IsFirstMaximum

variable {seen : List Single} {best : Nat} {top value : Single}

theorem singleton (h : value.isNaN = false) : IsFirstMaximum [value] 0 where
  isMaximum := ⟨value, rfl, h, fun w mem _ => by rw [List.mem_singleton.1 mem]⟩
  le := fun other _ => Nat.zero_le other

/-- A greater word takes the place of the first maximum. -/
theorem replace (is : IsFirstMaximum seen best) (found : seen[best]? = some top)
    (less : top.less value = true) :
    IsFirstMaximum (seen ++ [value]) seen.length := by
  obtain ⟨v, found', -, bound⟩ := is.isMaximum
  cases found.symm.trans found'
  obtain ⟨-, number, lt⟩ := (Binary.less_iff Format.proper_single).1 less
  have last : (seen ++ [value])[seen.length]? = some value := by simp
  refine ⟨⟨value, last, number, fun w mem is_number => ?_⟩, fun other isMaximum => ?_⟩
  · rcases List.mem_append.1 mem with mem | mem
    · exact (bound w mem is_number).trans lt.le
    · rw [List.mem_singleton.1 mem]
  · -- What stands before is no maximum any more.
    obtain ⟨w, at_other, is_number, all⟩ := isMaximum
    by_contra before
    rw [List.getElem?_append_left (Nat.not_le.1 before)] at at_other
    have under := bound w (List.mem_of_getElem? at_other) is_number
    have above := all value (by simp) number
    exact absurd (above.trans under) (not_le.2 lt)

/-- A word that is not greater leaves the first maximum where it is. -/
theorem keep (is : IsFirstMaximum seen best) (found : seen[best]? = some top)
    (less : top.less value = false) :
    IsFirstMaximum (seen ++ [value]) best := by
  obtain ⟨v, found', number, bound⟩ := is.isMaximum
  cases found.symm.trans found'
  have inside : best < seen.length := (List.getElem?_eq_some_iff.1 found).1
  refine ⟨⟨top, ?_, number, fun w mem is_number => ?_⟩, fun other isMaximum => ?_⟩
  · rw [List.getElem?_append_left inside, found]
  · rcases List.mem_append.1 mem with mem | mem
    · exact bound w mem is_number
    · obtain rfl := List.mem_singleton.1 mem
      by_contra above
      rw [(Binary.less_iff Format.proper_single).2 ⟨number, is_number, not_le.1 above⟩] at less
      cases less
  · obtain ⟨w, at_other, is_number, all⟩ := isMaximum
    by_cases before : other < seen.length
    · rw [List.getElem?_append_left before] at at_other
      exact is.le other ⟨w, at_other, is_number, fun u mem => all u (List.mem_append_left _ mem)⟩
    · omega

end IsFirstMaximum

/-- The search ends at the first maximum if it begins with that of the words before. -/
theorem isFirstMaximum_firstMaximumFrom {seen : List Single} {best : Nat} {top : Single}
    (is : IsFirstMaximum seen best) (found : seen[best]? = some top) (values : List Single) :
    IsFirstMaximum (seen ++ values) (firstMaximumFrom best top seen.length values) := by
  induction values generalizing seen best top with
  | nil => simpa [firstMaximumFrom] using is
  | cons value values ih =>
      have split : seen ++ value :: values = seen ++ [value] ++ values := by simp
      have next : seen.length + 1 = (seen ++ [value]).length := by simp
      rw [firstMaximumFrom, split, next]
      cases less : top.less value with
      | true => exact ih (is.replace found less) (by simp)
      | false =>
          have inside : best < seen.length := (List.getElem?_eq_some_iff.1 found).1
          exact ih (is.keep found less) (by rw [List.getElem?_append_left inside, found])

/-- Nothing is greater than a word that is no number. -/
theorem firstMaximumFrom_of_isNaN {top : Single} (h : top.isNaN = true) (best next : Nat)
    (values : List Single) : firstMaximumFrom best top next values = best := by
  induction values generalizing next with
  | nil => rfl
  | cons value values ih => simp [firstMaximumFrom, Binary.less, h, ih]

theorem firstMaximum_of_isNaN {v : Single} (h : v.isNaN = true) (others : List Single) :
    firstMaximum (v :: others) = some 0 := by
  rw [firstMaximum, firstMaximumFrom_of_isNaN h]

/-- A search that begins with a number finds the first maximum. -/
theorem isFirstMaximum_firstMaximum {v : Single} (h : v.isNaN = false) (others : List Single) :
    ∃ index, firstMaximum (v :: others) = some index ∧ IsFirstMaximum (v :: others) index :=
  ⟨_, rfl, isFirstMaximum_firstMaximumFrom (.singleton h) rfl others⟩

/-! ### Emotions -/

/-- The names of the emotions, in the order of the classifier's outputs. -/
def emotionNames : List String := ["neutral", "happy", "sad", "surprise", "anger"]

/-- There is an emotion for each of the first five outputs, and for no other. -/
theorem ofIndex?_cases (index : Nat) :
    (index < 5 ∧ ∃ e, Emotion.ofIndex? index = some e ∧ emotionNames[index]? = some e.name) ∨
      (5 ≤ index ∧ Emotion.ofIndex? index = none) := by
  by_cases known : index < 5
  · refine .inl ⟨known, ?_⟩
    match index, known with
    | 0, _ => exact ⟨_, rfl, rfl⟩
    | 1, _ => exact ⟨_, rfl, rfl⟩
    | 2, _ => exact ⟨_, rfl, rfl⟩
    | 3, _ => exact ⟨_, rfl, rfl⟩
    | 4, _ => exact ⟨_, rfl, rfl⟩
  · have beyond : 5 ≤ index := Nat.not_lt.1 known
    exact .inr ⟨beyond, List.getElem?_eq_none beyond⟩

theorem firstMaximum_eq_none_iff {data : List Single} : firstMaximum data = none ↔ data = [] := by
  cases data <;> simp [firstMaximum]

/-- What becomes of emotion probabilities, by their first maximum. -/
theorem decode_emotion_cases (layer : String) (data : List Single) :
    (firstMaximum data = none ∧ decode .emotion layer data = .error (.noData layer)) ∨
      (∃ index, firstMaximum data = some index ∧ 5 ≤ index ∧
        decode .emotion layer data = .error (.unknownEmotion index)) ∨
      (∃ index e, firstMaximum data = some index ∧ Emotion.all[index]? = some e ∧
        emotionNames[index]? = some e.name ∧
        decode .emotion layer data = .ok (some (.emotion e))) := by
  cases found : firstMaximum data with
  | none => exact .inl ⟨rfl, by simp [decode, decodeEmotion, found, Except.map]⟩
  | some index =>
      rcases ofIndex?_cases index with ⟨-, e, known, name⟩ | ⟨beyond, unknown⟩
      · exact .inr (.inr ⟨index, e, rfl, known,
          name, by simp [decode, decodeEmotion, found, known, Except.map]⟩)
      · exact .inr
          (.inl ⟨index, rfl, beyond, by simp [decode, decodeEmotion, found, unknown, Except.map]⟩)

theorem getElem?_all_of_five_le {index : Nat} (beyond : 5 ≤ index) : Emotion.all[index]? = none :=
  List.getElem?_eq_none beyond

theorem decode_emotion_eq_noData_iff (layer : String) (data : List Single) :
    decode .emotion layer data = .error (.noData layer) ↔ data = [] := by
  rw [← firstMaximum_eq_none_iff]
  rcases decode_emotion_cases layer data with
    ⟨none, is⟩ | ⟨index, found, -, is⟩ | ⟨index, e, found, -, -, is⟩
  · simp [none, is]
  · simp [found, is]
  · simp [found, is]

theorem decode_emotion_eq_unknownEmotion_iff (layer : String) (data : List Single) (index : Nat) :
    decode .emotion layer data = .error (.unknownEmotion index) ↔
      firstMaximum data = some index ∧ 5 ≤ index := by
  rcases decode_emotion_cases layer data with
    ⟨none, is⟩ | ⟨other, found, beyond, is⟩ | ⟨other, e, found, known, -, is⟩
  · simp [none, is]
  · rw [is, found]
    constructor
    · rintro ⟨⟩
      exact ⟨rfl, beyond⟩
    · rintro ⟨⟨⟩, -⟩
      rfl
  · rw [is, found]
    refine ⟨fun h => (by cases h), ?_⟩
    rintro ⟨⟨⟩, beyond⟩
    rw [getElem?_all_of_five_le beyond] at known
    cases known

theorem decode_emotion_eq_ok_iff (layer : String) (data : List Single) (e : Emotion) :
    decode .emotion layer data = .ok (some (.emotion e)) ↔
      ∃ index, firstMaximum data = some index ∧ Emotion.all[index]? = some e ∧
        emotionNames[index]? = some e.name := by
  rcases decode_emotion_cases layer data with
    ⟨none, is⟩ | ⟨other, found, beyond, is⟩ | ⟨other, e', found, known, name, is⟩
  · simp [none, is]
  · rw [is, found]
    refine ⟨fun h => (by cases h), ?_⟩
    rintro ⟨index, ⟨⟩, known, -⟩
    rw [getElem?_all_of_five_le beyond] at known
    cases known
  · rw [is, found]
    constructor
    · rintro ⟨⟩
      exact ⟨other, rfl, known, name⟩
    · rintro ⟨index, ⟨⟩, known', -⟩
      rw [Option.some.inj (known.symm.trans known')]

/-! ### The ends and the middle of the line of positions -/

theorem position_zero (negative : Bool) : (Binary.zero negative : Single).position = 0 := by
  have value : (Binary.zero negative : Single).value = .finite negative 0 (-149) := by
    cases negative <;> decide
  simp [Binary.position, Value.position, Value.exact, Binary.signed, value]

theorem position_infinite (negative : Bool) :
    (Binary.infinite negative : Single).position = if negative then ⊥ else ⊤ := by
  have value : (Binary.infinite negative : Single).value = .infinite negative := by
    cases negative <;> decide
  exact Binary.position_of_infinite value

/-! ### The first maximum tells the emotion -/

/-- There is no emotion without any output. A first output that is no number is the one that counts,
and else the first of the greatest numbers does, whatever stands between them. Its place tells the
emotion, if it is one of the five. Words are compared as the numbers that they stand for: the zeros
are equal and the infinities are the two ends. -/
theorem decode_emotion_first_maximum (layer : String) (data : List Single) :
    (firstMaximum data = none ↔ data = []) ∧
    (match data with
      | [] => True
      | v :: _ =>
        if v.isNaN then firstMaximum data = some 0
        else ∃ index, firstMaximum data = some index ∧ IsFirstMaximum data index) ∧
    (decode .emotion layer data = .error (.noData layer) ↔ data = []) ∧
    (∀ index, decode .emotion layer data = .error (.unknownEmotion index) ↔
      firstMaximum data = some index ∧ 5 ≤ index) ∧
    (∀ e, decode .emotion layer data = .ok (some (.emotion e)) ↔
      ∃ index, firstMaximum data = some index ∧ Emotion.all[index]? = some e ∧
        emotionNames[index]? = some e.name) ∧
    ((∀ v w : Single, v.less w = true ↔
      v.isNaN = false ∧ w.isNaN = false ∧ v.position < w.position) ∧
      ∀ negative : Bool, (Binary.zero negative : Single).position = 0 ∧
        (Binary.infinite negative : Single).position = if negative then ⊥ else ⊤) := by
  refine ⟨firstMaximum_eq_none_iff, ?_, decode_emotion_eq_noData_iff layer data,
    decode_emotion_eq_unknownEmotion_iff layer data, decode_emotion_eq_ok_iff layer data,
    fun v w => Binary.less_iff Format.proper_single,
    fun negative => ⟨position_zero negative, position_infinite negative⟩⟩
  match data with
  | [] => trivial
  | v :: others =>
    dsimp only
    split
    case isTrue no_number => exact firstMaximum_of_isNaN no_number others
    case isFalse number => exact isFirstMaximum_firstMaximum (Bool.eq_false_iff.2 number) others

/-- Neither a word that is no number nor the other zero takes the place of the first zero. -/
example : decode .emotion "prob_emotion" [Binary.zero true, ⟨0x7fc00000⟩, Binary.zero false] =
    .ok (some (.emotion .neutral)) := by decide +kernel

end FaceAnnotator.Label
