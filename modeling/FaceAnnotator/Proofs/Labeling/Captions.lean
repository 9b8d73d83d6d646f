import FaceAnnotator.Frame.Caption
import FaceAnnotator.Proofs.Json.Number
import FaceAnnotator.Proofs.Labeling.Independence
import FaceAnnotator.Proofs.Text.Trim
/-!
# FaceAnnotator.Proofs.Labeling.Captions

**What a caption tells of the labels.**

Whatever its tensors carry, a caption begins and ends with something to see, unless there is
nothing to see at all. The caption of a region that was just labeled tells more: its words are the
labels that were found, one for each tensor that is to have one, and no two lists of labels have
the same caption (`captions_tell_labels`).

That rests on the words that labels are shown as (`Label.word`). None of them is empty or has a
blank in it, so they can be told apart in a caption; and no two labels have the same one, since an
age is spelled with digits and nothing else is.
-/

namespace FaceAnnotator

open Numeric

/-! ### The words of labels -/

namespace Numeric

theorem digitsOf_injective : Function.Injective digitsOf :=
  Function.LeftInverse.injective (g := fun digits => Nat.ofDigitChars 10 digits 0)
    Json.value_digitsOf

theorem minus_not_mem_digitsOf (n : Nat) : '-' ∉ digitsOf n := by
  intro mem
  have digit := (Json.canonical_digitsOf n).isDigit '-' mem
  exact absurd digit (by decide)

/-- Whether a character can occur in the spelling of an integer. -/
def spellsInteger (c : Char) : Bool := c == '-' || Json.isDigit c

theorem spellsInteger_of_mem {n : Int} {c : Char} (h : c ∈ integerText n) :
    spellsInteger c = true := by
  have digits := (Json.canonical_digitsOf n.natAbs).isDigit
  unfold integerText at h
  rw [spellsInteger, Bool.or_eq_true, beq_iff_eq]
  split at h
  · exact (List.mem_cons.1 h).imp_right (digits c)
  · exact .inr (digits c h)

theorem integerText_ne_nil (n : Int) : integerText n ≠ [] := by
  unfold integerText
  split
  · exact List.cons_ne_nil _ _
  · exact (Json.canonical_digitsOf n.natAbs).ne_nil

/-- No two integers are spelled alike. -/
theorem integerText_injective : Function.Injective integerText := by
  intro m n same
  unfold integerText at same
  split at same <;> split at same
  · have size := digitsOf_injective (List.cons.inj same).2
    omega
  · have sign := minus_not_mem_digitsOf n.natAbs
    rw [← same] at sign
    exact absurd List.mem_cons_self sign
  · have sign := minus_not_mem_digitsOf m.natAbs
    rw [same] at sign
    exact absurd List.mem_cons_self sign
  · have size := digitsOf_injective same
    omega

end Numeric

namespace Label

/-- What a caption shows of a label. -/
def word (l : Label) : List Char := Text.trim l.text.toList

theorem isBlank_of_spellsInteger {c : Char} (h : spellsInteger c = true) :
    Text.isBlank c = false := by
  rw [spellsInteger, Bool.or_eq_true, beq_iff_eq] at h
  rcases h with rfl | digit
  · decide
  · obtain ⟨low, high⟩ : '0' ≤ c ∧ c ≤ '9' := by simpa [Json.isDigit] using digit
    have least : 48 ≤ c.toNat := low
    have greatest : c.toNat ≤ 57 := high
    simp only [Text.isBlank, Bool.or_eq_false_iff, Bool.and_eq_false_iff, decide_eq_false_iff_not,
      beq_eq_false_iff_ne]
    omega

theorem word_age (years : Int) : (age years).word = integerText years := by
  rw [word, text_age, String.toList_ofList]
  exact Text.trim_of_blankless fun c mem => isBlank_of_spellsInteger (spellsInteger_of_mem mem)

theorem word_ne_nil (l : Label) : l.word ≠ [] := by
  cases l with
  | age years => rw [word_age]; exact integerText_ne_nil years
  | gender g => cases g <;> decide
  | emotion e => cases e <;> decide

theorem isBlank_of_mem_word {l : Label} {c : Char} (h : c ∈ l.word) : Text.isBlank c = false := by
  have blankless : l.word.any Text.isBlank = false := by
    cases l with
    | age years =>
        rw [word_age, List.any_eq_false]
        intro d mem
        simp [isBlank_of_spellsInteger (spellsInteger_of_mem mem)]
    | gender g => cases g <;> decide
    | emotion e => cases e <;> decide
  simpa using List.any_eq_false.1 blankless c h

/-- What is not spelled as an integer is no age. -/
theorem word_age_ne {word : List Char} (letter : word.all spellsInteger = false) (years : Int) :
    (age years).word ≠ word := by
  rw [word_age]
  rintro rfl
  have digits := List.all_eq_true.2 fun c (mem : c ∈ integerText years) => spellsInteger_of_mem mem
  rw [digits] at letter
  contradiction

theorem word_age_ne_gender (years : Int) (g : Gender) : (age years).word ≠ (gender g).word :=
  word_age_ne (by cases g <;> decide) years

theorem word_age_ne_emotion (years : Int) (e : Emotion) : (age years).word ≠ (emotion e).word :=
  word_age_ne (by cases e <;> decide) years

theorem word_gender_ne_emotion (g : Gender) (e : Emotion) : (gender g).word ≠ (emotion e).word := by
  cases g <;> cases e <;> decide

/-- No two labels are shown as the same word. -/
theorem word_injective : Function.Injective word := by
  intro l m same
  cases l with
  | age years =>
      cases m with
      | age years' =>
          rw [word_age, word_age] at same
          rw [integerText_injective same]
      | gender g => exact absurd same (word_age_ne_gender years g)
      | emotion e => exact absurd same (word_age_ne_emotion years e)
  | gender g =>
      cases m with
      | age years => exact absurd same.symm (word_age_ne_gender years g)
      | gender g' => revert same; cases g <;> cases g' <;> decide
      | emotion e => exact absurd same (word_gender_ne_emotion g e)
  | emotion e =>
      cases m with
      | age years => exact absurd same.symm (word_age_ne_emotion years e)
      | gender g => exact absurd same.symm (word_gender_ne_emotion g e)
      | emotion e' => revert same; cases e <;> cases e' <;> decide

/-- Labels can be told from their words, joined by spaces. -/
theorem words_intercalate (labels : List Label) :
    Text.words ([' '].intercalate (labels.map word)) = labels.map word := by
  refine Text.words_intercalate fun w mem => ?_
  obtain ⟨l, -, rfl⟩ := List.mem_map.1 mem
  exact ⟨l.word_ne_nil, fun c => isBlank_of_mem_word⟩

end Label

/-! ### Captions of any region -/

namespace Region

theorem isTrimmed_caption (r : Region) : Text.IsTrimmed r.caption.toList := by
  rw [caption, String.toList_ofList]
  refine Text.isTrimmed_intercalate fun word mem => ⟨ne_nil_of_mem_captionWords mem, ?_⟩
  obtain ⟨t, -, shown⟩ := List.mem_filterMap.1 (List.mem_filter.1 mem).1
  obtain ⟨text, -, rfl⟩ := Option.map_eq_some_iff.1 shown
  exact Text.isTrimmed_trim text.toList

theorem captionWords_eq_nil_iff (r : Region) :
    r.captionWords = [] ↔
      ∀ t ∈ r.tensors, ∀ label, t.label = some label → ∀ c ∈ label.toList, Text.isBlank c := by
  rw [captionWords, List.filter_eq_nil_iff]
  constructor
  · intro none_shown t mem label carried
    have empty := none_shown (Text.trim label.toList)
      (List.mem_filterMap.2 ⟨t, mem, Option.map_eq_some_iff.2 ⟨label, carried, rfl⟩⟩)
    exact Text.trim_eq_nil_iff.1 (by simpa using empty)
  · intro blank word mem
    obtain ⟨t, among, shown⟩ := List.mem_filterMap.1 mem
    obtain ⟨label, carried, rfl⟩ := Option.map_eq_some_iff.1 shown
    simpa using Text.trim_eq_nil_iff.2 (blank t among label carried)

theorem caption_eq_empty_iff (r : Region) :
    r.caption = "" ↔ ∀ t ∈ r.tensors,
      ∀ label, t.label = some label → ∀ c ∈ label.toList, Text.isBlank c := by
  rw [← captionWords_eq_nil_iff, caption, String.ofList_eq_empty_iff]
  exact Text.intercalate_eq_nil_iff fun word => ne_nil_of_mem_captionWords

end Region

/-! ### Captions of labeled regions -/

namespace Frame

/-- The labels that a survey of the frame finds for the region at a place, in order. -/
def labelsOf (f : Frame) (region : Nat) : List Label :=
  match f.survey.outcome with
  | .ok found => (found.filter fun a => a.region = region).map Assignment.label
  | .error _ => []

/-- The frame can be labeled, and its tensors that never get a label carry none. -/
structure IsCaptioned (f : Frame) : Prop where
  labeled : f.annotate.outcome.isOk
  others : ∀ t ∈ f.tensors, t.kind = .detection ∨ t.kind = .unknown → t.label = none

theorem labels_tensorAssignments (region place : Nat) (tensors : List Tensor) :
    (tensorAssignments region place tensors).map Assignment.label =
      tensors.filterMap Tensor.readable? := by
  have labels (t : Tensor) (i : Nat) :
      (t.readable?.map fun label => Assignment.mk region i label).map Assignment.label =
        t.readable? := by
    cases t.readable? <;> rfl
  have fronts : (tensors.zipIdx place).filterMap (fun x => x.1.readable?) =
      ((tensors.zipIdx place).map Prod.fst).filterMap Tensor.readable? := by
    rw [List.filterMap_map]
    rfl
  rw [tensorAssignments, List.map_filterMap]
  simp only [labels]
  rw [fronts, List.zipIdx_map_fst]

theorem region_of_mem_tensorAssignments {region place : Nat} {tensors : List Tensor}
    {a : Assignment} (h : a ∈ tensorAssignments region place tensors) : a.region = region := by
  obtain ⟨x, -, found⟩ := List.mem_filterMap.1 h
  obtain ⟨label, -, rfl⟩ := Option.map_eq_some_iff.1 found
  rfl

theorem le_region_of_mem_regionAssignments {place : Nat} {regions : List Region} {a : Assignment}
    (h : a ∈ regionAssignments place regions) : place ≤ a.region := by
  obtain ⟨x, mem, within⟩ := List.mem_flatMap.1 h
  rw [region_of_mem_tensorAssignments within]
  exact List.le_snd_of_mem_zipIdx mem

theorem labels_regionAssignments {regions : List Region} {i : Nat} {r : Region}
    (h : regions[i]? = some r) (place : Nat) :
    ((regionAssignments place regions).filter fun a => a.region = place + i).map Assignment.label =
      r.tensors.filterMap Tensor.readable? := by
  induction regions generalizing i place with
  | nil => simp at h
  | cons first regions ih =>
      have split : regionAssignments place (first :: regions) =
          tensorAssignments place 0 first.tensors ++ regionAssignments (place + 1) regions := by
        simp [regionAssignments, List.zipIdx_cons]
      rw [split, List.filter_append, List.map_append]
      cases i with
      | zero =>
          -- The first region has all its own assignments, and those behind it are for later
          -- regions.
          obtain rfl : first = r := by simpa using h
          have all : (tensorAssignments place 0 first.tensors).filter (fun a => a.region = place) =
              tensorAssignments place 0 first.tensors :=
            List.filter_eq_self.2 fun a mem => by simp [region_of_mem_tensorAssignments mem]
          have none : (regionAssignments (place + 1) regions).filter (fun a => a.region = place) =
              [] :=
            List.filter_eq_nil_iff.2 fun a mem => by
              have behind := le_region_of_mem_regionAssignments mem
              simp only [decide_eq_true_eq]
              omega
          rw [Nat.add_zero, all, none, labels_tensorAssignments, List.map_nil, List.append_nil]
      | succ i =>
          have none : (tensorAssignments place 0 first.tensors).filter
              (fun a => a.region = place + (i + 1)) = [] :=
            List.filter_eq_nil_iff.2 fun a mem => by simp [region_of_mem_tensorAssignments mem]
          have later := ih (by simpa using h) (place + 1)
          rw [Nat.add_assoc, Nat.add_comm 1 i] at later
          rw [none, later, List.map_nil, List.nil_append]

theorem labelsOf_eq {f : Frame} (good : f.undecodable? = none) {i : Nat} {r : Region}
    (h : f.regions[i]? = some r) : f.labelsOf i = r.tensors.filterMap Tensor.readable? := by
  have labels := labels_regionAssignments h 0
  rw [Nat.zero_add] at labels
  simp only [labelsOf, f.outcome_survey, good, surveyed]
  exact labels

end Frame

namespace Tensor

/-- What is shown for a tensor, once it was labeled, is the label that was read out of it. -/
theorem label_relabel_of_clean {t : Tensor} (good : t.undecodable? = none)
    (clean : t.kind = .detection ∨ t.kind = .unknown → t.label = none) :
    t.relabel.label = t.readable?.map Label.text := by
  unfold relabel
  cases label : t.readable? with
  | some l => rfl
  | none =>
      -- Nothing was read, so there is no label to be had, and there was none before.
      have unlabelable : ¬t.Labelable := by simp [← isSome_readable?_iff good, label]
      rw [labelable_iff_kind, not_and_or, not_not, not_not] at unlabelable
      exact clean unlabelable

end Tensor

namespace Region

/-- The words of a region that was just labeled. -/
theorem captionWords_relabel {r : Region} (good : ∀ t ∈ r.tensors, t.undecodable? = none)
    (clean : ∀ t ∈ r.tensors, t.kind = .detection ∨ t.kind = .unknown → t.label = none) :
    r.relabel.captionWords = (r.tensors.filterMap Tensor.readable?).map Label.word := by
  have shown : (r.tensors.filterMap fun t =>
      t.relabel.label.map fun text => Text.trim text.toList) =
      (r.tensors.filterMap Tensor.readable?).map Label.word := by
    rw [List.map_filterMap]
    refine List.filterMap_congr fun t mem => ?_
    rw [Tensor.label_relabel_of_clean (good t mem) (clean t mem), Option.map_map]
    rfl
  rw [captionWords, relabel, List.filterMap_map]
  simp only [Function.comp_def]
  rw [shown, List.filter_eq_self]
  intro word mem
  obtain ⟨l, -, rfl⟩ := List.mem_map.1 mem
  simpa using l.word_ne_nil

/-- Each tensor that is to have a label has one, and no other tensor has. -/
theorem decode_labelable {tensors : List Tensor} (good : ∀ t ∈ tensors, t.undecodable? = none) :
    (tensors.filter (·.Labelable)).map Tensor.decode =
      (tensors.filterMap Tensor.readable?).map fun label => .ok (some label) := by
  induction tensors with
  | nil => rfl
  | cons t tensors ih =>
      have first := good t List.mem_cons_self
      have later := ih fun other mem => good other (List.mem_cons_of_mem t mem)
      have labelable := Tensor.isSome_readable?_iff first
      have decoded := Tensor.decode_of_undecodable?_eq_none first
      cases label : t.readable? with
      | none =>
          rw [label] at labelable
          rw [List.filter_cons_of_neg (by simpa using labelable.not.1 (by simp)),
            List.filterMap_cons_none label, later]
      | some l =>
          rw [label] at labelable decoded
          rw [List.filter_cons_of_pos (by simpa using labelable.1 rfl),
            List.filterMap_cons_some label, List.map_cons, List.map_cons, decoded, later]

end Region

namespace Frame

variable {f g : Frame}

/-- A region of a frame that was labeled was a region of the frame. -/
theorem exists_relabel_eq (h : f.IsCaptioned) {i : Nat} {r : Region}
    (found : f.annotate.frame.regions[i]? = some r) :
    ∃ before, f.regions[i]? = some before ∧ before.relabel = r := by
  rw [annotate_of_decodable (undecodable?_eq_none_iff.2 h.labeled), relabel,
    List.getElem?_map] at found
  exact Option.map_eq_some_iff.1 found

/-- What a survey finds for a region is shown in its caption, and there is a label for each tensor
that is to have one. -/
theorem captionWords_annotate (h : f.IsCaptioned) {i : Nat} {r : Region}
    (found : f.annotate.frame.regions[i]? = some r) :
    r.captionWords = (f.labelsOf i).map Label.word ∧
      (r.tensors.filter (·.Labelable)).map Tensor.decode =
        (f.labelsOf i).map fun label => .ok (some label) := by
  obtain ⟨before, place, rfl⟩ := exists_relabel_eq h found
  have all := undecodable?_eq_none_iff.2 h.labeled
  have within : ∀ t ∈ before.tensors, t ∈ f.tensors :=
    fun t mem => List.mem_flatMap.2 ⟨before, List.mem_of_getElem? place, mem⟩
  have good : ∀ t ∈ before.tensors, t.undecodable? = none :=
    fun t mem => List.findSome?_eq_none_iff.1 all t (within t mem)
  rw [labelsOf_eq all place]
  refine ⟨Region.captionWords_relabel good fun t mem => h.others t (within t mem), ?_⟩
  rw [← Region.decode_labelable good]
  simp [Region.relabel, List.filter_map, Function.comp_def, Tensor.decode_relabel]

/-- No two lists of labels have the same caption. -/
theorem caption_eq_iff (hf : f.IsCaptioned) (hg : g.IsCaptioned) {i j : Nat} {r s : Region}
    (foundf : f.annotate.frame.regions[i]? = some r)
    (foundg : g.annotate.frame.regions[j]? = some s) :
    r.caption = s.caption ↔ f.labelsOf i = g.labelsOf j := by
  have wordsf := (captionWords_annotate hf foundf).1
  have wordsg := (captionWords_annotate hg foundg).1
  rw [Region.caption, Region.caption, wordsf, wordsg]
  constructor
  · intro same
    -- The words are read off the captions, and the labels off the words.
    have words := congrArg Text.words (String.ofList_injective same)
    rw [Label.words_intercalate, Label.words_intercalate] at words
    exact List.map_injective_iff.2 Label.word_injective words
  · intro same
    rw [same]

/-- Every caption begins and ends with something to see, and is empty if and only if no label of its
region has anything to see. Once a frame was labeled, and if only labels that it got are there, the
words of a caption are the labels that were found for the region: one for each tensor that is to
have one, in their order. Then captions are the same if and only if the labels are. -/
theorem captions_tell_labels :
    (∀ r : Region, Text.IsTrimmed r.caption.toList ∧
      (r.caption = "" ↔ ∀ t ∈ r.tensors,
        ∀ label, t.label = some label → ∀ c ∈ label.toList, Text.isBlank c)) ∧
    (∀ f : Frame, f.IsCaptioned → ∀ i r, f.annotate.frame.regions[i]? = some r →
      Text.words r.caption.toList = (f.labelsOf i).map Label.word ∧
        (r.tensors.filter (·.Labelable)).map Tensor.decode =
          (f.labelsOf i).map fun label => .ok (some label)) ∧
    (∀ f g : Frame, f.IsCaptioned → g.IsCaptioned → ∀ i j r s,
      f.annotate.frame.regions[i]? = some r → g.annotate.frame.regions[j]? = some s →
        (r.caption = s.caption ↔ f.labelsOf i = g.labelsOf j)) := by
  refine ⟨fun r => ⟨r.isTrimmed_caption, r.caption_eq_empty_iff⟩, fun f h i r found => ?_,
    fun f g hf hg i j r s foundf foundg => caption_eq_iff hf hg foundf foundg⟩
  obtain ⟨words, labels⟩ := captionWords_annotate h found
  refine ⟨?_, labels⟩
  rw [Region.caption, String.toList_ofList, words, Label.words_intercalate]

/-- A frame with two faces: of one the gender and the age are known, of the other the emotion. -/
def twoFaceFrame : Frame where
  index := 5
  regions :=
    [⟨8, 8, 64, 64,
        [⟨"detection", "prob", [], none⟩,
          ⟨"gender", "prob", [Numeric.Binary.round false 1 4, Numeric.Binary.round false 3 4],
            some "?"⟩,
          ⟨"age", "age_conv3", [Numeric.Binary.round false 37 100], none⟩]⟩,
      ⟨96, 8, 64, 64,
        [⟨"emotion", "prob_emotion",
            [Numeric.Binary.round false 1 4, Numeric.Binary.round false 3 4], none⟩]⟩]

/-- One caption has the words "M" and "37", and the other one is different. -/
theorem captions_tell_labels_of_twoFaceFrame :
    twoFaceFrame.IsCaptioned ∧
      ∃ r s, twoFaceFrame.annotate.frame.regions[0]? = some r ∧
        twoFaceFrame.annotate.frame.regions[1]? = some s ∧
        Text.words r.caption.toList = [['M'], ['3', '7']] ∧ r.caption ≠ s.caption := by
  have captioned : twoFaceFrame.IsCaptioned := by
    refine ⟨by decide +kernel, ?_⟩
    decide +kernel
  have labels : twoFaceFrame.labelsOf 0 = [.gender .male, .age 37] := by decide +kernel
  have others : twoFaceFrame.labelsOf 1 = [.emotion .happy] := by decide +kernel
  have here (i : Nat) (less : i < 2) : ∃ r, twoFaceFrame.annotate.frame.regions[i]? = some r := by
    rw [annotate_of_decodable (undecodable?_eq_none_iff.2 captioned.labeled)]
    exact ⟨_, List.getElem?_eq_getElem less⟩
  obtain ⟨r, foundr⟩ := here 0 (by decide)
  obtain ⟨s, founds⟩ := here 1 (by decide)
  obtain ⟨-, told, apart⟩ := captions_tell_labels
  refine ⟨captioned, r, s, foundr, founds, ?_, ?_⟩
  · rw [(told _ captioned 0 r foundr).1, labels]
    decide
  · rw [Ne, apart _ _ captioned captioned 0 1 r s foundr founds, labels, others]
    decide

end Frame

end FaceAnnotator
