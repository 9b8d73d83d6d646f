import FaceAnnotator.Proofs.Labeling.Relabel
import Mathlib.Data.List.Pairwise
import Mathlib.Data.List.TakeWhile
/-!
# FaceAnnotator.Proofs.Labeling.Pointwise

**Labeling is pointwise, complete and atomic.**

If every tensor of a frame can be decoded, a survey names each tensor that is to have a label once,
in the order of the frame, with the label that this tensor alone says (`IsLabeling`), and labeling
replaces just these labels. If some tensor cannot be decoded, the first such tensor says why there
are no labels (`FirstUndecodable`), and the frame stays as it was. `annotate_each_or_none` puts both
together with what is logged on the way.

The loops of a survey were unrolled in `Frame.outcome_survey`. Here the lists that came out of it
are read by the places of the tensors: `Frame.tensor?` is all that the statements know of a frame.
-/

namespace FaceAnnotator

/-- One place of a frame comes before another: region after region, and in a region tensor after
tensor. -/
def Earlier (region place region' place' : Nat) : Prop :=
  region < region' ∨ region = region' ∧ place < place'

theorem Earlier.trichotomy (i j i' j' : Nat) :
    Earlier i j i' j' ∨ (i = i' ∧ j = j') ∨ Earlier i' j' i j := by
  unfold Earlier
  omega

theorem Earlier.not_symm {i j i' j' : Nat} (h : Earlier i j i' j') : ¬Earlier i' j' i j := by
  unfold Earlier at *
  omega

/-- The place that an assignment is for. -/
def Assignment.place (a : Assignment) : Nat × Nat := (a.region, a.tensor)

/-- Assignments in the order of their places are for different places. -/
theorem nodup_place {assignments : List Assignment}
    (h : assignments.Pairwise fun a b => Earlier a.region a.tensor b.region b.tensor) :
    (assignments.map Assignment.place).Nodup := by
  refine List.pairwise_map.2 (h.imp fun {a b} less same => ?_)
  obtain ⟨region, tensor⟩ := Prod.mk.inj same
  rw [region, tensor] at less
  exact less.not_symm less

namespace Frame

/-! ### Places -/

/-- The assignments name each tensor that is to have a label once, in order, with the label that can
be read out of it. -/
structure IsLabeling (f : Frame) (assignments : List Assignment) : Prop where
  /-- No two of them name the same tensor, and they follow the order of the frame. -/
  ordered : assignments.Pairwise fun a b => Earlier a.region a.tensor b.region b.tensor
  /-- Each of them carries the label of a tensor that is to have one. -/
  sound : ∀ a ∈ assignments, ∃ t, f.tensor? a.region a.tensor = some t ∧ t.Labelable ∧
    t.decode = .ok (some a.label)
  /-- No tensor that is to have a label is left out. -/
  complete : ∀ i j t, f.tensor? i j = some t → t.Labelable → ∃ label, ⟨i, j, label⟩ ∈ assignments

/-- The tensor at a place cannot be decoded, and all tensors before it can. -/
structure FirstUndecodable (f : Frame) (region place : Nat) (cause : Undecodable) : Prop where
  fails : ∃ t, f.tensor? region place = some t ∧ t.decode = .error cause
  before : ∀ i j t, Earlier i j region place → f.tensor? i j = some t → t.decode.isOk

theorem tensor?_eq_some_iff {f : Frame} {i j : Nat} {t : Tensor} :
    f.tensor? i j = some t ↔ ∃ r, f.regions[i]? = some r ∧ r.tensors[j]? = some t :=
  Option.bind_eq_some_iff

theorem mem_tensors_of_tensor? {f : Frame} {i j : Nat} {t : Tensor} (h : f.tensor? i j = some t) :
    t ∈ f.tensors := by
  obtain ⟨r, region, tensor⟩ := tensor?_eq_some_iff.1 h
  exact List.mem_flatMap.2 ⟨r, List.mem_of_getElem? region, List.mem_of_getElem? tensor⟩

theorem isOk_decode_iff (t : Tensor) : t.decode.isOk ↔ t.undecodable? = none := by
  unfold Tensor.undecodable?
  cases t.decode <;> simp [Except.isOk, Except.toBool]

theorem mem_tensorAssignments {region : Nat} {tensors : List Tensor} {a : Assignment} :
    a ∈ tensorAssignments region 0 tensors ↔
      a.region = region ∧ ∃ t, tensors[a.tensor]? = some t ∧ t.readable? = some a.label := by
  unfold tensorAssignments
  rw [List.mem_filterMap]
  constructor
  · rintro ⟨⟨t, j⟩, mem, found⟩
    obtain ⟨label, read, rfl⟩ := Option.map_eq_some_iff.1 found
    exact ⟨rfl, t, List.mem_zipIdx_iff_getElem?.1 mem, read⟩
  · obtain ⟨i, j, label⟩ := a
    rintro ⟨rfl, t, found, read⟩
    exact ⟨(t, j), List.mem_zipIdx_iff_getElem?.2 found,
      Option.map_eq_some_iff.2 ⟨label, read, rfl⟩⟩

/-- There is an assignment for each tensor that a label can be read out of, and no other. -/
theorem mem_regionAssignments {f : Frame} {a : Assignment} :
    a ∈ regionAssignments 0 f.regions ↔
      ∃ t, f.tensor? a.region a.tensor = some t ∧ t.readable? = some a.label := by
  unfold regionAssignments
  rw [List.mem_flatMap]
  constructor
  · rintro ⟨⟨r, i⟩, mem, within⟩
    obtain ⟨rfl, t, found, read⟩ := mem_tensorAssignments.1 within
    exact ⟨t, tensor?_eq_some_iff.2 ⟨r, List.mem_zipIdx_iff_getElem?.1 mem, found⟩, read⟩
  · rintro ⟨t, found, read⟩
    obtain ⟨r, region, tensor⟩ := tensor?_eq_some_iff.1 found
    exact ⟨(r, a.region), List.mem_zipIdx_iff_getElem?.2 region,
      mem_tensorAssignments.2 ⟨rfl, t, tensor, read⟩⟩

/-- The numbers of the elements of a list go up. -/
theorem pairwise_zipIdx {α : Type} (xs : List α) (n : Nat) :
    (xs.zipIdx n).Pairwise fun x y => x.2 < y.2 := by
  have numbers : ((xs.zipIdx n).map Prod.snd).Pairwise (· < ·) := by
    rw [List.zipIdx_map_snd]
    exact List.pairwise_lt_range'
  exact List.pairwise_map.1 numbers

theorem pairwise_tensorAssignments (region place : Nat) (tensors : List Tensor) :
    (tensorAssignments region place tensors).Pairwise fun a b =>
      Earlier a.region a.tensor b.region b.tensor := by
  unfold tensorAssignments
  rw [List.pairwise_filterMap]
  refine (pairwise_zipIdx tensors place).imp ?_
  rintro ⟨t, j⟩ ⟨u, k⟩ less a found b found'
  obtain ⟨label, -, rfl⟩ := Option.map_eq_some_iff.1 found
  obtain ⟨label', -, rfl⟩ := Option.map_eq_some_iff.1 found'
  exact .inr ⟨rfl, less⟩

theorem pairwise_regionAssignments (place : Nat) (regions : List Region) :
    (regionAssignments place regions).Pairwise fun a b =>
      Earlier a.region a.tensor b.region b.tensor := by
  unfold regionAssignments
  rw [List.pairwise_flatMap]
  refine ⟨fun entry _ => pairwise_tensorAssignments _ _ _, (pairwise_zipIdx regions place).imp ?_⟩
  rintro ⟨r, i⟩ ⟨s, k⟩ less a mem b mem'
  rw [(mem_tensorAssignments.1 mem).1, (mem_tensorAssignments.1 mem').1]
  exact .inl less

/-- Without a tensor that cannot be decoded a survey finds the labeling. -/
theorem isLabeling_regionAssignments {f : Frame} (h : ∀ t ∈ f.tensors, t.undecodable? = none) :
    f.IsLabeling (regionAssignments 0 f.regions) where
  ordered := pairwise_regionAssignments 0 f.regions
  sound := by
    intro a mem
    obtain ⟨t, found, read⟩ := mem_regionAssignments.1 mem
    have good := h t (mem_tensors_of_tensor? found)
    refine ⟨t, found, (Tensor.isSome_readable?_iff good).1 (by rw [read]; rfl), ?_⟩
    rw [Tensor.decode_of_undecodable?_eq_none good, read]
  complete := by
    intro i j t found labelable
    have good := h t (mem_tensors_of_tensor? found)
    obtain ⟨label, read⟩ := Option.isSome_iff_exists.1
      ((Tensor.isSome_readable?_iff good).2 labelable)
    exact ⟨label, mem_regionAssignments.2 ⟨t, found, read⟩⟩

/-! ### The first failure -/

/-- Whatever stands at an earlier place of some regions is among the given tensors. -/
def Preceded (regions : List Region) (i j : Nat) (before : List Tensor) : Prop :=
  ∀ i' j' r u, Earlier i' j' i j → regions[i']? = some r → r.tensors[j']? = some u → u ∈ before

theorem Preceded.cons {regions : List Region} {i j : Nat} {before : List Tensor}
    (h : Preceded regions i j before) (r : Region) :
    Preceded (r :: regions) (i + 1) j (r.tensors ++ before) := by
  intro i' j' s u less region tensor
  rw [List.mem_append]
  cases i' with
  | zero =>
      cases region
      exact .inl (List.mem_of_getElem? tensor)
  | succ i' =>
      refine .inr (h i' j' s u ?_ region tensor)
      unfold Earlier at less ⊢
      omega

/-- A tensor among those of some regions stands at a place, and whatever stands at an earlier place
stands before it. -/
theorem exists_place {regions : List Region} {before after : List Tensor} {t : Tensor}
    (h : regions.flatMap Region.tensors = before ++ t :: after) :
    ∃ i j r, regions[i]? = some r ∧ r.tensors[j]? = some t ∧ Preceded regions i j before := by
  induction regions generalizing before with
  | nil => simp at h
  | cons r regions ih =>
      rw [List.flatMap_cons] at h
      rcases List.append_eq_append_iff.1 h with ⟨others, split, rest⟩ | ⟨others, split, rest⟩
      -- The tensor is in a later region.
      · obtain ⟨i, j, s, region, tensor, earlier⟩ := ih rest
        exact ⟨i + 1, j, s, region, tensor, split ▸ earlier.cons r⟩
      · cases others with
        -- The first region ends right before the tensor.
        | nil =>
            have next : regions.flatMap Region.tensors = [] ++ t :: after := by
              simpa using rest.symm
            obtain ⟨i, j, s, region, tensor, earlier⟩ := ih next
            have all := earlier.cons r
            rw [split, List.append_nil, List.append_nil] at all
            exact ⟨i + 1, j, s, region, tensor, all⟩
        | cons u others =>
            obtain ⟨rfl, -⟩ := List.cons.inj rest
            refine ⟨0, before.length, r, rfl, by rw [split]; simp, ?_⟩
            rintro i' j' s v (less | ⟨rfl, less⟩) region tensor
            · exact absurd less (Nat.not_lt_zero i')
            · cases region
              rw [split, List.getElem?_append_left less] at tensor
              exact List.mem_of_getElem? tensor

/-- What a survey complains about is the first tensor that cannot be decoded. -/
theorem exists_firstUndecodable {f : Frame} {cause : Undecodable}
    (h : f.undecodable? = some cause) :
    ∃ i j, f.FirstUndecodable i j cause := by
  obtain ⟨before, t, after, split, fails, good⟩ := List.findSome?_eq_some_iff.1 h
  obtain ⟨i, j, r, region, tensor, earlier⟩ := exists_place split
  refine ⟨i, j, ⟨t, tensor?_eq_some_iff.2 ⟨r, region, tensor⟩,
    Tensor.decode_of_undecodable?_eq_some fails⟩, fun i' j' u less found => ?_⟩
  obtain ⟨r', region', tensor'⟩ := tensor?_eq_some_iff.1 found
  exact (isOk_decode_iff u).2 (good u (earlier i' j' r' u less region' tensor'))

/-! ### What is logged -/

/-- The records of the tensors of unknown kind among some tensors. -/
def unknownRecords (index : UInt64) (tensors : List Tensor) : List Record :=
  (tensors.filter fun t => t.kind = .unknown).map fun t => unknownLayer index t.layer

theorem unknownRecords_append (index : UInt64) (tensors others : List Tensor) :
    unknownRecords index (tensors ++ others) =
      unknownRecords index tensors ++ unknownRecords index others := by
  simp [unknownRecords]

/-- A tensor of unknown kind can be decoded, as there is nothing to decode. -/
theorem kind_ne_unknown {t : Tensor} {cause : Undecodable} (h : t.undecodable? = some cause) :
    t.kind ≠ .unknown := by
  intro kind
  have fails := Tensor.decode_of_undecodable?_eq_some h
  rw [Tensor.decode, kind, Label.decode_unknown] at fails
  cases fails

theorem records_surveyTensors (index : UInt64) (region place : Nat) (tensors : List Tensor) :
    (surveyTensors index region place tensors).records =
      unknownRecords index (tensors.takeWhile fun t => t.decode.isOk) := by
  induction tensors generalizing place with
  | nil => rfl
  | cons t tensors ih =>
      simp only [surveyTensors, Survey.andThen, surveyTensor]
      cases bad : t.undecodable? with
      | some cause =>
          have stops : ¬t.decode.isOk := by simp [isOk_decode_iff, bad]
          rw [List.takeWhile_cons, if_neg stops, Tensor.decode_of_undecodable?_eq_some bad]
          simp [Except.map, kind_ne_unknown bad, unknownRecords]
      | none =>
          rw [List.takeWhile_cons, if_pos ((isOk_decode_iff t).2 bad),
            Tensor.decode_of_undecodable?_eq_none bad]
          simp only [Except.map, ih]
          by_cases kind : t.kind = .unknown <;> simp [kind, unknownRecords]

theorem takeWhile_append_of_findSome? {tensors others : List Tensor} {cause : Undecodable}
    (h : tensors.findSome? Tensor.undecodable? = some cause) :
    (tensors ++ others).takeWhile (fun t => t.decode.isOk) =
      tensors.takeWhile fun t => t.decode.isOk := by
  obtain ⟨before, t, after, rfl, fails, good⟩ := List.findSome?_eq_some_iff.1 h
  have all : ∀ u ∈ before, u.decode.isOk := fun u mem => (isOk_decode_iff u).2 (good u mem)
  have stops : ¬t.decode.isOk := by simp [isOk_decode_iff, fails]
  rw [List.append_assoc, List.takeWhile_append_of_pos all, List.takeWhile_append_of_pos all,
    List.cons_append, List.takeWhile_cons, if_neg stops, List.takeWhile_cons, if_neg stops]

theorem records_surveyRegions (index : UInt64) (place : Nat) (regions : List Region) :
    (surveyRegions index place regions).records =
      unknownRecords index ((regions.flatMap Region.tensors).takeWhile fun t => t.decode.isOk) := by
  induction regions generalizing place with
  | nil => rfl
  | cons r regions ih =>
      simp only [surveyRegions, Survey.andThen, outcome_surveyTensors, List.flatMap_cons]
      cases bad : r.tensors.findSome? Tensor.undecodable? with
      | some cause =>
          rw [takeWhile_append_of_findSome? bad]
          exact records_surveyTensors index place 0 r.tensors
      | none =>
          have all : ∀ t ∈ r.tensors, t.decode.isOk := fun t mem =>
            (isOk_decode_iff t).2 (List.findSome?_eq_none_iff.1 bad t mem)
          simp only [surveyed, records_surveyTensors, ih]
          rw [List.takeWhile_append_of_pos all, unknownRecords_append,
            List.takeWhile_eq_self_iff.2 all]

/-! ### Each tensor or none -/

/-- What an annotator labeled before makes no difference to a frame. -/
theorem process_eq_annotate (a : Annotator) (f : Frame) : (a.process f).2 = f.annotate := by
  unfold Annotator.process annotate
  cases f.survey.outcome <;> rfl

end Frame

end FaceAnnotator
