import FaceAnnotator.Labeling
/-!
# FaceAnnotator.Proofs.Labeling.Assignment

**What assignments do to a frame, whatever they are.**

Assignments are written one after the other, and nobody promises that each names a tensor of the
frame or that no two name the same one. What comes of them is said tensor by tensor
(`tensor?_assignAll`): a tensor carries the text of the last assignment to it, and its old label if
there is none. All else stays as it was, which is said of the frame without its labels
(`unlabeled_assignAll`).

Both together are all that there is to know of a frame (`ext_tensor?`). So assignments to different
tensors may change places, and those to no tensor may be left out.
-/

namespace FaceAnnotator

/-! ### Frames without their labels -/

/-- The tensor with no label. -/
def Tensor.unlabeled (t : Tensor) : Tensor := { t with label := none }

/-- The region with no labels. -/
def Region.unlabeled (r : Region) : Region := { r with tensors := r.tensors.map Tensor.unlabeled }

/-- The frame with no labels. -/
def Frame.unlabeled (f : Frame) : Frame := { f with regions := f.regions.map Region.unlabeled }

@[simp] theorem Tensor.unlabeled_withLabel (t : Tensor) (label : String) :
    (t.withLabel label).unlabeled = t.unlabeled := rfl

/-- What looks the same after a change of one element looks the same all over the list. -/
theorem map_modify_of_comp {α β : Type} {view : α → β} {change : α → α}
    (h : ∀ x, view (change x) = view x) (xs : List α) (place : Nat) :
    (xs.modify place change).map view = xs.map view := by
  refine List.ext_getElem? fun i => ?_
  rw [List.getElem?_map, List.getElem?_map, List.getElem?_modify]
  cases xs[i]? with
  | none => rfl
  | some x => by_cases here : place = i <;> simp [here, h]

namespace Frame

theorem unlabeled_assign (f : Frame) (a : Assignment) : (f.assign a).unlabeled = f.unlabeled := by
  have region (r : Region) :
      (r.modifyTensor a.tensor fun t => t.withLabel a.label.text).unlabeled = r.unlabeled := by
    simp only [Region.unlabeled, Region.modifyTensor]
    rw [map_modify_of_comp fun t => t.unlabeled_withLabel a.label.text]
  simp only [unlabeled, assign, modifyTensor]
  rw [map_modify_of_comp region]

/-- Assignments change labels and nothing else. -/
theorem unlabeled_assignAll (f : Frame) (assignments : List Assignment) :
    (f.assignAll assignments).unlabeled = f.unlabeled := by
  induction assignments generalizing f with
  | nil => rfl
  | cons a rest ih => rw [assignAll_cons, ih, unlabeled_assign]

/-- Frames that differ in labels at most, and not in the label of any tensor, are the same. -/
theorem ext_tensor? {f g : Frame} (outline : f.unlabeled = g.unlabeled)
    (tensors : ∀ i j, f.tensor? i j = g.tensor? i j) : f = g := by
  obtain ⟨index, regions⟩ := f
  obtain ⟨index', regions'⟩ := g
  obtain ⟨rfl, regionsOutline⟩ := Frame.mk.inj outline
  refine congrArg (Frame.mk index) (List.ext_getElem? fun i => ?_)
  have outlineAt : regions[i]?.map Region.unlabeled = regions'[i]?.map Region.unlabeled := by
    rw [← List.getElem?_map, ← List.getElem?_map, regionsOutline]
  have tensorsAt := tensors i
  unfold tensor? at tensorsAt
  cases left : regions[i]? with
  | none =>
      cases right : regions'[i]? with
      | none => rfl
      | some s => simp [left, right] at outlineAt
  | some r =>
      cases right : regions'[i]? with
      | none => simp [left, right] at outlineAt
      | some s =>
          simp only [left, right, Option.map_some, Option.some.injEq,
            Option.bind_some] at outlineAt tensorsAt
          have inside : r.tensors = s.tensors := List.ext_getElem? tensorsAt
          obtain ⟨x, y, width, height, _⟩ := r
          obtain ⟨x', y', width', height', _⟩ := s
          obtain ⟨rfl, rfl, rfl, rfl, -⟩ := Region.mk.inj outlineAt
          exact congrArg some (congrArg (Region.mk x y width height) inside)

end Frame

/-! ### The last assignment to a tensor -/

/-- The label of the tensor at a place. -/
def Frame.label? (f : Frame) (region place : Nat) : Option String :=
  (f.tensor? region place).bind Tensor.label

/-- The assignments to the tensor at a place, in order. -/
def assignmentsAt (region place : Nat) (assignments : List Assignment) : List Assignment :=
  assignments.filter fun a => a.region = region ∧ a.tensor = place

theorem assignmentsAt_cons (region place : Nat) (a : Assignment) (rest : List Assignment) :
    assignmentsAt region place (a :: rest) =
      if a.region = region ∧ a.tensor = place then a :: assignmentsAt region place rest
      else assignmentsAt region place rest := by
  simp [assignmentsAt, List.filter_cons]

theorem mem_assignmentsAt {region place : Nat} {a : Assignment} {assignments : List Assignment} :
    a ∈ assignmentsAt region place assignments ↔
      a ∈ assignments ∧ a.region = region ∧ a.tensor = place := by
  simp [assignmentsAt]

/-- The tensor after some assignments to it: the last one decides. -/
def Tensor.assigned (t : Tensor) (assignments : List Assignment) : Tensor :=
  match assignments.getLast? with
  | some a => t.withLabel a.label.text
  | none => t

theorem Tensor.assigned_cons (t : Tensor) (a : Assignment) (rest : List Assignment) :
    t.assigned (a :: rest) = (t.withLabel a.label.text).assigned rest := by
  unfold assigned
  rw [List.getLast?_cons]
  cases rest.getLast? <;> rfl

namespace Frame

theorem tensor?_assign (f : Frame) (a : Assignment) (i j : Nat) :
    (f.assign a).tensor? i j =
      if a.region = i ∧ a.tensor = j then (f.tensor? i j).map fun t => t.withLabel a.label.text
      else f.tensor? i j :=
  f.tensor?_modifyTensor a.region a.tensor _ i j

/-- The assigned text is there right after it was assigned, unless there is no tensor to carry
it. -/
theorem label?_assign_eq_iff (f : Frame) (a : Assignment) :
    (f.assign a).label? a.region a.tensor = some a.label.text ↔
      (f.tensor? a.region a.tensor).isSome := by
  rw [label?, tensor?_assign, if_pos ⟨rfl, rfl⟩]
  cases f.tensor? a.region a.tensor <;> simp

/-- Every tensor carries what the last assignment to it says. -/
theorem tensor?_assignAll (f : Frame) (assignments : List Assignment) (i j : Nat) :
    (f.assignAll assignments).tensor? i j =
      (f.tensor? i j).map fun t => t.assigned (assignmentsAt i j assignments) := by
  induction assignments generalizing f with
  | nil =>
      rw [assignAll_nil]
      cases f.tensor? i j <;> rfl
  | cons a rest ih =>
      rw [assignAll_cons, ih, tensor?_assign]
      by_cases here : a.region = i ∧ a.tensor = j
      · rw [if_pos here, Option.map_map, assignmentsAt_cons, if_pos here]
        simp only [Tensor.assigned_cons, Function.comp_def]
      · rw [if_neg here, assignmentsAt_cons, if_neg here]

/-- Assignments come to the same if they come to the same on each tensor that is there. -/
theorem assignAll_congr {f : Frame} {assignments others : List Assignment}
    (h : ∀ i j t, f.tensor? i j = some t →
      assignmentsAt i j others = assignmentsAt i j assignments) :
    f.assignAll others = f.assignAll assignments := by
  refine ext_tensor? (by rw [unlabeled_assignAll, unlabeled_assignAll]) fun i j => ?_
  rw [tensor?_assignAll, tensor?_assignAll]
  cases found : f.tensor? i j with
  | none => rfl
  | some t => rw [h i j t found]

theorem assignmentsAt_filter_of_tensor? {f : Frame} {i j : Nat} {t : Tensor}
    (h : f.tensor? i j = some t) (assignments : List Assignment) :
    assignmentsAt i j (assignments.filter fun a => (f.tensor? a.region a.tensor).isSome) =
      assignmentsAt i j assignments := by
  unfold assignmentsAt
  rw [List.filter_filter]
  refine List.filter_congr fun a _ => ?_
  by_cases here : a.region = i ∧ a.tensor = j
  · obtain ⟨rfl, rfl⟩ := here
    simp [h]
  · simp [here]

/-- Whatever is assigned to a frame:

* the tensor at a place carries the text of the last assignment to this place, and its old label if
  there is none;
* the frame is otherwise as it was;
* assignments to places where there is no tensor might as well be left out;
* so might the assignments to different tensors stand in another order, as long as those to each
  tensor follow each other as before. -/
theorem assignAll_last_wins (f : Frame) (assignments : List Assignment) :
    (∀ i j, (f.assignAll assignments).tensor? i j =
        (f.tensor? i j).map fun t =>
          match (assignmentsAt i j assignments).getLast? with
          | some a => t.withLabel a.label.text
          | none => t) ∧
      (f.assignAll assignments).unlabeled = f.unlabeled ∧
      f.assignAll (assignments.filter fun a => (f.tensor? a.region a.tensor).isSome) =
        f.assignAll assignments ∧
      ∀ others, (∀ i j, assignmentsAt i j others = assignmentsAt i j assignments) →
        f.assignAll others = f.assignAll assignments := by
  refine ⟨fun i j => f.tensor?_assignAll assignments i j, f.unlabeled_assignAll assignments, ?_, ?_⟩
  · exact assignAll_congr fun i j t found => assignmentsAt_filter_of_tensor? found assignments
  · intro others same
    exact assignAll_congr fun i j _ _ => same i j

/-- A face with two tensors. -/
def twoTensorFrame : Frame where
  index := 3
  regions :=
    [⟨10, 10, 64, 64, [⟨"age", "age_conv3", [], some "36"⟩, ⟨"emotion", "prob_emotion", [], none⟩]⟩]

/-- The second age wins over the first, what is meant for a tensor that is not there gets lost, and
the emotion may come before, between or after the ages. -/
theorem assignAll_last_wins_on_two_tensors :
    let assignments : List Assignment :=
      [⟨0, 0, .age 1⟩, ⟨0, 0, .age 2⟩, ⟨0, 1, .emotion .sad⟩, ⟨0, 7, .age 3⟩]
    let others : List Assignment :=
      [⟨0, 7, .age 3⟩, ⟨0, 0, .age 1⟩, ⟨0, 1, .emotion .sad⟩, ⟨0, 0, .age 2⟩]
    (∀ i j, assignmentsAt i j others = assignmentsAt i j assignments) ∧
      twoTensorFrame.assignAll others = twoTensorFrame.assignAll assignments ∧
      (twoTensorFrame.assignAll assignments).tensor? 0 0 =
        some ⟨"age", "age_conv3", [], some "2"⟩ := by
  intro assignments others
  have same (i j : Nat) : assignmentsAt i j others = assignmentsAt i j assignments := by
    grind [assignmentsAt]
  obtain ⟨tensors, -, -, orders⟩ := assignAll_last_wins twoTensorFrame assignments
  refine ⟨same, orders others same, ?_⟩
  rw [tensors]
  decide

end Frame

end FaceAnnotator
