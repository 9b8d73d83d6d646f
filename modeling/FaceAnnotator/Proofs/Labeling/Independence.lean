import FaceAnnotator.Proofs.Labeling.Assignment
import FaceAnnotator.Proofs.Labeling.Pointwise
import Mathlib.Data.List.Nodup
/-!
# FaceAnnotator.Proofs.Labeling.Independence

**Labels are never read.**

What a survey finds follows from the tensors without their labels, and from the places they stand at
(`survey_of_sameOutputs`). Regions are seen through their tensors only, so geometry does not count
either, nor does a region without tensors behind the last one that has some.

That a labeled frame may be labeled again, and again, is the same fact for one frame and its own
labels.
-/

namespace FaceAnnotator

/-! ### Tensors -/

namespace Tensor

theorem labelable_congr {s t : Tensor} (h : s.unlabeled = t.unlabeled) :
    s.Labelable ↔ t.Labelable := by
  have names : s.unlabeled.Labelable ↔ t.unlabeled.Labelable := by rw [h]
  exact names

theorem decode_congr {s t : Tensor} (h : s.unlabeled = t.unlabeled) : s.decode = t.decode := by
  have outputs : s.unlabeled.decode = t.unlabeled.decode := by rw [h]
  exact outputs

theorem readable?_congr {s t : Tensor} (h : s.unlabeled = t.unlabeled) :
    s.readable? = t.readable? := by
  rw [readable?, readable?, decode_congr h]

/-- A tensor that is to have a label and can be decoded gets the label that it says. -/
theorem label_relabel {t : Tensor} (good : t.undecodable? = none) (labelable : t.Labelable) :
    ∃ label, t.decode = .ok (some label) ∧ t.relabel.label = some label.text := by
  obtain ⟨label, read⟩ := Option.isSome_iff_exists.1 ((isSome_readable?_iff good).2 labelable)
  refine ⟨label, ?_, ?_⟩
  · rw [decode_of_undecodable?_eq_none good, read]
  · rw [relabel, read, label_withLabel]

end Tensor

/-! ### Places -/

/-- Assignments in the order of their places are known by what is among them. -/
theorem eq_of_ordered {xs ys : List Assignment}
    (hx : xs.Pairwise fun a b => Earlier a.region a.tensor b.region b.tensor)
    (hy : ys.Pairwise fun a b => Earlier a.region a.tensor b.region b.tensor)
    (h : ∀ a, a ∈ xs ↔ a ∈ ys) :
    xs = ys := by
  have perm : xs.Perm ys :=
    (List.perm_ext_iff_of_nodup (.of_map _ (nodup_place hx)) (.of_map _ (nodup_place hy))).2 h
  exact List.Perm.eq_of_pairwise (fun a b _ _ less more => absurd more less.not_symm) hx hy perm

namespace Frame

/-- The frames hold the same tensors at the same places, but for what is shown for them. -/
def SameOutputs (f g : Frame) : Prop :=
  ∀ i j, (f.tensor? i j).map Tensor.unlabeled = (g.tensor? i j).map Tensor.unlabeled

namespace SameOutputs

variable {f g : Frame}

theorem symm (h : f.SameOutputs g) : g.SameOutputs f := fun i j => (h i j).symm

theorem exists_tensor (h : f.SameOutputs g) {i j : Nat} {t : Tensor}
    (found : f.tensor? i j = some t) :
    ∃ u, g.tensor? i j = some u ∧ t.unlabeled = u.unlabeled := by
  have at_place := h i j
  rw [found, Option.map_some, eq_comm, Option.map_eq_some_iff] at at_place
  obtain ⟨u, found', same⟩ := at_place
  exact ⟨u, found', same.symm⟩

end SameOutputs

/-! ### Surveys -/

theorem FirstUndecodable.not_before {f : Frame} {i j i' j' : Nat} {cause cause' : Undecodable}
    (h : f.FirstUndecodable i j cause) (h' : f.FirstUndecodable i' j' cause') :
    ¬Earlier i' j' i j := by
  intro less
  obtain ⟨t, found, fails⟩ := h'.fails
  have good := h.before i' j' t less found
  rw [fails] at good
  cases good

theorem FirstUndecodable.unique {f : Frame} {i j i' j' : Nat} {cause cause' : Undecodable}
    (h : f.FirstUndecodable i j cause) (h' : f.FirstUndecodable i' j' cause') : cause = cause' := by
  rcases Earlier.trichotomy i j i' j' with less | ⟨rfl, rfl⟩ | less
  · exact absurd less (h'.not_before h)
  · obtain ⟨t, found, fails⟩ := h.fails
    obtain ⟨t', found', fails'⟩ := h'.fails
    rw [found] at found'
    rw [Option.some.inj found', fails'] at fails
    exact Except.error.inj fails.symm
  · exact absurd less (h.not_before h')

theorem undecodable?_of_tensor? {f : Frame} (good : f.undecodable? = none) {i j : Nat} {t : Tensor}
    (found : f.tensor? i j = some t) : t.undecodable? = none :=
  List.findSome?_eq_none_iff.1 good t (mem_tensors_of_tensor? found)

theorem undecodable?_eq_some_iff {f : Frame} {cause : Undecodable} :
    f.undecodable? = some cause ↔ ∃ i j, f.FirstUndecodable i j cause := by
  refine ⟨exists_firstUndecodable, ?_⟩
  rintro ⟨i, j, first⟩
  obtain ⟨t, found, fails⟩ := first.fails
  cases bad : f.undecodable? with
  | none =>
      rw [Tensor.decode_of_undecodable?_eq_none (undecodable?_of_tensor? bad found)] at fails
      cases fails
  | some cause' =>
      obtain ⟨i', j', first'⟩ := exists_firstUndecodable bad
      rw [first'.unique first]

variable {f g : Frame}

theorem FirstUndecodable.of_sameOutputs (h : f.SameOutputs g) {i j : Nat} {cause : Undecodable}
    (first : f.FirstUndecodable i j cause) : g.FirstUndecodable i j cause where
  fails := by
    obtain ⟨t, found, fails⟩ := first.fails
    obtain ⟨u, found', same⟩ := h.exists_tensor found
    exact ⟨u, found', by rw [← Tensor.decode_congr same, fails]⟩
  before := by
    intro i' j' u less found'
    obtain ⟨t, found, same⟩ := h.symm.exists_tensor found'
    rw [Tensor.decode_congr same]
    exact first.before i' j' t less found

theorem undecodable?_of_sameOutputs (h : f.SameOutputs g) : f.undecodable? = g.undecodable? := by
  refine Option.ext fun cause => ?_
  rw [undecodable?_eq_some_iff, undecodable?_eq_some_iff]
  constructor
  · rintro ⟨i, j, first⟩
    exact ⟨i, j, first.of_sameOutputs h⟩
  · rintro ⟨i, j, first⟩
    exact ⟨i, j, first.of_sameOutputs h.symm⟩

theorem mem_regionAssignments_of_sameOutputs (h : f.SameOutputs g) {a : Assignment}
    (mem : a ∈ regionAssignments 0 f.regions) : a ∈ regionAssignments 0 g.regions := by
  obtain ⟨t, found, read⟩ := mem_regionAssignments.1 mem
  obtain ⟨u, found', same⟩ := h.exists_tensor found
  exact mem_regionAssignments.2 ⟨u, found', by rw [← Tensor.readable?_congr same, read]⟩

theorem regionAssignments_of_sameOutputs (h : f.SameOutputs g) :
    regionAssignments 0 f.regions = regionAssignments 0 g.regions :=
  eq_of_ordered (pairwise_regionAssignments 0 f.regions) (pairwise_regionAssignments 0 g.regions)
    fun _ => ⟨mem_regionAssignments_of_sameOutputs h, mem_regionAssignments_of_sameOutputs h.symm⟩

/-- A survey does not see labels. -/
theorem survey_of_sameOutputs (h : f.SameOutputs g) : f.survey.outcome = g.survey.outcome := by
  rw [outcome_survey, outcome_survey, undecodable?_of_sameOutputs h,
    regionAssignments_of_sameOutputs h]

theorem outcome_annotate (f : Frame) : f.annotate.outcome = f.survey.outcome.map fun _ => true := by
  unfold annotate
  cases f.survey.outcome <;> rfl

/-! ### Labels afterwards -/

theorem tensor?_relabel (f : Frame) (i j : Nat) :
    f.relabel.tensor? i j = (f.tensor? i j).map Tensor.relabel := by
  simp only [tensor?, relabel, List.getElem?_map]
  cases f.regions[i]? with
  | none => rfl
  | some r => exact List.getElem?_map

theorem undecodable?_eq_none_iff {f : Frame} : f.undecodable? = none ↔ f.annotate.outcome.isOk := by
  cases bad : f.undecodable? with
  | none => simp [annotate_of_decodable bad, Except.isOk, Except.toBool]
  | some cause => simp [annotate_of_undecodable bad, Except.isOk, Except.toBool]

/-- After a frame was labeled, a tensor that is to have a label carries the one that it says. -/
theorem label?_annotate (good : f.annotate.outcome.isOk) {i j : Nat} {t : Tensor}
    (found : f.tensor? i j = some t) (labelable : t.Labelable) :
    ∃ label, t.decode = .ok (some label) ∧ f.annotate.frame.label? i j = some label.text := by
  have all := undecodable?_eq_none_iff.2 good
  obtain ⟨label, decoded, carried⟩ :=
    Tensor.label_relabel (undecodable?_of_tensor? all found) labelable
  refine ⟨label, decoded, ?_⟩
  rw [annotate_of_decodable all, label?, tensor?_relabel, found]
  exact carried

/-- To label a labeled frame succeeds and changes nothing. -/
theorem annotate_annotate (good : f.annotate.outcome.isOk) :
    f.annotate.frame.annotate = ⟨f.annotate.frame, .ok true⟩ := by
  have all := undecodable?_eq_none_iff.2 good
  rw [annotate_of_decodable all, annotate_of_decodable (f.undecodable?_relabel.trans all),
    relabel_relabel]

end Frame

/-! ### Again and again -/

/-- A way to label a frame. -/
inductive Way where
  /-- Alone, by `Frame.annotate`. -/
  | alone
  /-- By an annotator, which goes on from one frame to the next. -/
  | annotator
deriving DecidableEq, Repr

namespace Annotator

/-- A frame is labeled in some way, while an annotator is at hand. -/
def label (a : Annotator) (f : Frame) : Way → Annotator × Processed Undecodable
  | .alone => (a, f.annotate)
  | .annotator => a.process f

/-- A frame is labeled several times, each time as the time before left it. -/
def labelAgain (a : Annotator) (f : Frame) : List Way → List (Processed Undecodable)
  | [] => []
  | way :: ways =>
    let (a, processed) := a.label f way
    processed :: a.labelAgain processed.frame ways

theorem snd_label (a : Annotator) (f : Frame) (way : Way) : (a.label f way).2 = f.annotate := by
  cases way with
  | alone => rfl
  | annotator => exact Frame.process_eq_annotate a f

/-- What labeling does not change, it does not change any number of times. -/
theorem labelAgain_of_fixed {f : Frame} (fixed : f.annotate = ⟨f, .ok true⟩) (a : Annotator)
    (ways : List Way) :
    a.labelAgain f ways = ways.map fun _ => ⟨f, .ok true⟩ := by
  induction ways generalizing a with
  | nil => rfl
  | cons way ways ih =>
      have first : (a.label f way).2 = ⟨f, .ok true⟩ := (a.snd_label f way).trans fixed
      rw [labelAgain, List.map_cons]
      simp only [first, ih]

end Annotator

namespace Frame

/-- Labels are not read, whatever they are:

* of two frames whose tensors have the same names, layers and data at the same places, a survey
  finds the same, both can be labeled or none can, for the same cause, and then each tensor that is
  to have a label carries the same one in both;
* a frame that could be labeled can be labeled again in any way any number of times, and stays
  as it is. -/
theorem annotate_ignores_labels (f : Frame) :
    (∀ g, f.SameOutputs g →
        f.survey.outcome = g.survey.outcome ∧ f.annotate.outcome = g.annotate.outcome ∧
        (f.annotate.outcome.isOk → ∀ i j t, f.tensor? i j = some t → t.Labelable →
          ∃ label, t.decode = .ok (some label) ∧ f.annotate.frame.label? i j = some label.text ∧
            g.annotate.frame.label? i j = some label.text)) ∧
      (f.annotate.outcome.isOk → ∀ (a : Annotator) (ways : List Way),
        a.labelAgain f.annotate.frame ways = ways.map fun _ => ⟨f.annotate.frame, .ok true⟩) := by
  refine ⟨fun g same => ?_, fun good a ways => a.labelAgain_of_fixed (annotate_annotate good) ways⟩
  have surveys := survey_of_sameOutputs same
  have outcomes : f.annotate.outcome = g.annotate.outcome := by
    rw [outcome_annotate, outcome_annotate, surveys]
  refine ⟨surveys, outcomes, fun good i j t found labelable => ?_⟩
  obtain ⟨u, found', alike⟩ := same.exists_tensor found
  obtain ⟨label, decoded, carried⟩ := label?_annotate good found labelable
  obtain ⟨label', decoded', carried'⟩ :=
    label?_annotate (outcomes ▸ good) found' ((Tensor.labelable_congr alike).1 labelable)
  rw [← Tensor.decode_congr alike, decoded] at decoded'
  rw [← Option.some.inj (Except.ok.inj decoded')] at carried'
  exact ⟨label, decoded, carried, carried'⟩

/-- A frame with one face, whose age is 37 whatever is shown for it. -/
def oneAgeFrame (index : UInt64) (x : Int32) (label : Option String) : Frame where
  index := index
  regions := [⟨x, 0, 64, 64, [⟨"age", "age_conv3", [Numeric.Binary.round false 37 100], label⟩]⟩]

/-- Another index, another place and an age that was shown before change nothing, nor do
three more labelings. -/
theorem annotate_ignores_old_age :
    let f := oneAgeFrame 3 10 none
    let g := oneAgeFrame 9 (-7) (some "12")
    f.SameOutputs g ∧ f.annotate.outcome.isOk ∧ f.annotate.frame.label? 0 0 = some "37" ∧
      g.annotate.frame.label? 0 0 = some "37" ∧
      ({} : Annotator).labelAgain f.annotate.frame [.annotator, .alone, .annotator] =
        [⟨f.annotate.frame, .ok true⟩, ⟨f.annotate.frame, .ok true⟩,
          ⟨f.annotate.frame, .ok true⟩] := by
  intro f g
  have same : f.SameOutputs g
    | 0, 0 => rfl
    | 0, _ + 1 => rfl
    | _ + 1, _ => rfl
  have good : f.annotate.outcome.isOk := by decide +kernel
  obtain ⟨others, again⟩ := annotate_ignores_labels f
  obtain ⟨label, decoded, carried, carried'⟩ := (others g same).2.2 good 0 0 _ rfl (by decide)
  have age : label.text = "37" := by
    have read : Tensor.decode ⟨"age", "age_conv3", [Numeric.Binary.round false 37 100], none⟩ =
        .ok (some (.age 37)) := by decide +kernel
    rw [decoded] at read
    rw [Option.some.inj (Except.ok.inj read)]
    decide
  rw [age] at carried carried'
  exact ⟨same, good, carried, carried', again good {} _⟩

end Frame

end FaceAnnotator
