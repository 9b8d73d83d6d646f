import FaceAnnotator.Frame.Printing
import FaceAnnotator.Frame.Reading
import FaceAnnotator.Proofs.Json.Data
import FaceAnnotator.Proofs.Json.Record
import FaceAnnotator.Proofs.Recording.Memory
/-!
# FaceAnnotator.Proofs.Frame.RoundTrip

**A stored frame reads back, all but its data, and that as its own text says.**

Each of the three records is followed through its members in the order in which they are printed. A
record is refused exactly if a word in it is no number, which goes up from the tensors to the frame.
-/

namespace FaceAnnotator

open Numeric Json

/-! ### What is read back -/

namespace Tensor

/-- Whether all data is numbers. -/
def isFinite (t : Tensor) : Bool := t.data.all (·.isFinite)

/-- The tensor as it reads back. -/
def reread (t : Tensor) : Tensor := { t with data := t.data.map Single.reread }

theorem reread_eq_self {t : Tensor} (h : ∀ x ∈ t.data, x.reread = x) : t.reread = t := by
  have data : t.data.map Single.reread = t.data := by
    rw [List.map_congr_left h, List.map_id']
  rw [Tensor.reread, data]

end Tensor

namespace Region

def isFinite (r : Region) : Bool := r.tensors.all Tensor.isFinite

/-- The region as it reads back. -/
def reread (r : Region) : Region := { r with tensors := r.tensors.map Tensor.reread }

theorem reread_eq_self {r : Region} (h : ∀ t ∈ r.tensors, t.reread = t) : r.reread = r := by
  have tensors : r.tensors.map Tensor.reread = r.tensors := by
    rw [List.map_congr_left h, List.map_id']
  rw [Region.reread, tensors]

end Region

namespace Frame

def isFinite (f : Frame) : Bool := f.regions.all Region.isFinite

/-- The frame as it reads back. -/
def reread (f : Frame) : Frame := { f with regions := f.regions.map Region.reread }

theorem reread_eq_self {f : Frame} (h : ∀ r ∈ f.regions, r.reread = r) : f.reread = f := by
  have regions : f.regions.map Region.reread = f.regions := by
    rw [List.map_congr_left h, List.map_id']
  rw [Frame.reread, regions]

end Frame

/-- Answers to all elements are there if none of them is refused. -/
theorem mapM_answer {α β : Type} (accepts : α → Bool) (answer : α → β) (xs : List α) :
    (xs.mapM fun x => if accepts x then some (answer x) else none) =
      if xs.all accepts then some (xs.map answer) else none := by
  induction xs with
  | nil => rfl
  | cons x xs ih =>
      rw [List.mapM_cons, ih, List.all_cons]
      cases accepts x <;> cases xs.all accepts <;> rfl

/-! ### Numbers of the geometry and of a frame -/

theorem Region.answers_readExtent (n : Int32) :
    Answers Region.readExtent (integerPieces n.toInt).flatten (some n) := by
  have least : -2147483648 ≤ n.toInt := n.le_toInt
  have greatest : n.toInt ≤ 2147483647 := n.toInt_le
  have reads := answers_integer "i32" least greatest (by omega) (by omega)
  have back := reads.map Int32.ofInt
  rw [Option.map_some, Int32.ofInt_toInt] at back
  rw [integerPieces, List.flatten_singleton]
  exact back

theorem Frame.answers_readIndex (n : UInt64) :
    Answers Frame.readIndex (integerPieces n.toNat).flatten (some n) := by
  have greatest : n.toNat < 18446744073709551616 := n.toNat_lt
  have reads := answers_integer "usize" (show (0 : Int) ≤ n.toNat by omega)
    (show (n.toNat : Int) ≤ 18446744073709551615 by omega) (by omega) (by omega)
  have back := reads.map fun n => UInt64.ofNat n.toNat
  rw [Option.map_some, Int.toNat_natCast, UInt64.ofNat_toNat] at back
  rw [integerPieces, List.flatten_singleton]
  exact back

/-! ### The three records -/

theorem begins_objectPieces (members : List Pieces) : Begins (objectPieces members).flatten := by
  rw [flatten_objectPieces]
  exact ⟨'\x7b', _, rfl, by decide, by decide⟩

namespace Tensor

/-- The members of a tensor. -/
def members (t : Tensor) : List (List Char) :=
  [memberText "name" (quote t.name), memberText "layer_name" (quote t.layer),
    memberText "data" (bracketed (t.data.map fun x => (singlePieces x).flatten))] ++
  t.label.toList.map fun label => memberText "label" (quote label)

theorem flatten_pieces (t : Tensor) : t.pieces.flatten = braced t.members := by
  simp [pieces, members, flatten_objectPieces, flatten_memberPieces, flatten_listPieces,
    flatten_literal, quote, Function.comp_def]

/-- What is collected of a tensor all of whose data is numbers. -/
def draft (t : Tensor) : Draft :=
  ⟨some t.name, some t.layer, some (t.data.map Single.reread), t.label.map some⟩

theorem collects (t : Tensor) :
    schema.Collects schema.none t.members (if t.isFinite then some t.draft else none) := by
  have data := answers_list fun x (_ : x ∈ t.data) => ⟨begins_singlePieces x, answers_single x⟩
  rw [mapM_answer] at data
  refine .read rfl rfl ((answers_text t.name).map fun s => ({ name := some s } : Draft)) ?_
  refine .read rfl rfl ((answers_text t.layer).map fun s =>
    ({ name := some t.name, layer := some s } : Draft)) ?_
  -- From here on the record is refused, or its label is all that is left to read.
  refine .ite (data.map_ite fun xs => (⟨some t.name, some t.layer, some xs, none⟩ : Draft))
    rfl rfl ?_
  unfold draft
  cases t.label with
  | none => exact .done _
  | some label =>
      exact .read rfl rfl ((answers_optionalText label).map fun l =>
        (⟨some t.name, some t.layer, some (t.data.map Single.reread), some l⟩ : Draft)) (.done _)

theorem answers_read (t : Tensor) :
    Answers read t.pieces.flatten (if t.isFinite then some t.reread else none) := by
  have built : schema.build t.draft = .ok t.reread := by
    cases label : t.label <;> simp [schema, draft, reread, label]
  rw [flatten_pieces]
  exact Schema.answers_read t.collects built

end Tensor

namespace Region

/-- The members of a region. -/
def members (r : Region) : List (List Char) :=
  [memberText "x" (integerPieces r.x.toInt).flatten,
    memberText "y" (integerPieces r.y.toInt).flatten,
    memberText "width" (integerPieces r.width.toInt).flatten,
    memberText "height" (integerPieces r.height.toInt).flatten,
    memberText "tensors" (bracketed (r.tensors.map fun t => t.pieces.flatten))]

theorem flatten_pieces (r : Region) : r.pieces.flatten = braced r.members := by
  simp [pieces, members, flatten_objectPieces, flatten_memberPieces, flatten_listPieces,
    Function.comp_def]

/-- What is collected of a region all of whose data is numbers. -/
def draft (r : Region) : Draft :=
  ⟨some r.x, some r.y, some r.width, some r.height, some (r.tensors.map Tensor.reread)⟩

theorem collects (r : Region) :
    schema.Collects schema.none r.members (if r.isFinite then some r.draft else none) := by
  have tensors := answers_list fun t (_ : t ∈ r.tensors) => ⟨begins_objectPieces _, t.answers_read⟩
  rw [mapM_answer] at tensors
  refine .read rfl rfl ((answers_readExtent r.x).map fun n => ({ x := some n } : Draft)) ?_
  refine .read rfl rfl ((answers_readExtent r.y).map fun n =>
    ({ x := some r.x, y := some n } : Draft)) ?_
  refine .read rfl rfl ((answers_readExtent r.width).map fun n =>
    ({ x := some r.x, y := some r.y, width := some n } : Draft)) ?_
  refine .read rfl rfl ((answers_readExtent r.height).map fun n =>
    ({ x := some r.x, y := some r.y, width := some r.width, height := some n } : Draft)) ?_
  exact .ite (tensors.map_ite fun ts =>
    (⟨some r.x, some r.y, some r.width, some r.height, some ts⟩ : Draft)) rfl rfl (.done _)

theorem answers_read (r : Region) :
    Answers read r.pieces.flatten (if r.isFinite then some r.reread else none) := by
  rw [flatten_pieces]
  exact Schema.answers_read r.collects rfl

end Region

namespace Frame

/-- The members of a frame. -/
def members (f : Frame) : List (List Char) :=
  [memberText "index" (integerPieces f.index.toNat).flatten,
    memberText "regions" (bracketed (f.regions.map fun r => r.pieces.flatten))]

theorem flatten_pieces (f : Frame) : f.pieces.flatten = braced f.members := by
  simp [pieces, members, flatten_objectPieces, flatten_memberPieces, flatten_listPieces,
    Function.comp_def]

/-- What is collected of a frame all of whose data is numbers. -/
def draft (f : Frame) : Draft := ⟨some f.index, some (f.regions.map Region.reread)⟩

theorem collects (f : Frame) :
    schema.Collects schema.none f.members (if f.isFinite then some f.draft else none) := by
  have regions := answers_list fun r (_ : r ∈ f.regions) => ⟨begins_objectPieces _, r.answers_read⟩
  rw [mapM_answer] at regions
  refine .read rfl rfl ((answers_readIndex f.index).map fun n => ({ index := some n } : Draft)) ?_
  exact .ite (regions.map_ite fun rs => (⟨some f.index, some rs⟩ : Draft)) rfl rfl (.done _)

theorem answers_read (f : Frame) :
    Answers read f.pieces.flatten (if f.isFinite then some f.reread else none) := by
  rw [flatten_pieces]
  exact Schema.answers_read f.collects rfl

/-- A sink without a limit takes every frame. -/
theorem write_unlimited (f : Frame) :
    LineWriter.write (m := Id) Memory.device ⟨true, {}⟩ f =
      (.ok (), ⟨true, { bytes := Text.encode f.json ++ lineEnd }⟩) :=
  LineWriter.write_memory (admits_none _) f

/-- Every frame can be written. The text is refused for its content if a word of data is no number;
otherwise it reads back as the frame with each word of data as that word's own text reads. -/
theorem ofJson_json (f : Frame) :
    LineWriter.write (m := Id) Memory.device ⟨true, {}⟩ f =
        (.ok (), ⟨true, { bytes := Text.encode f.json ++ lineEnd }⟩) ∧
      if f.isFinite then
        Frame.ofJson f.json = .ok f.reread ∧
          ∀ r ∈ f.regions, ∀ t ∈ r.tensors,
            ∀ x ∈ t.data, document single (x.text .data) = .ok x.reread
      else ∃ complaint, Frame.ofJson f.json = .error complaint ∧
        complaint.cause.category = .content := by
  refine ⟨f.write_unlimited, ?_⟩
  have reads : Answers read f.json (if f.isFinite then some f.reread else none) := f.answers_read
  split
  · rename_i finite
    rw [if_pos finite] at reads
    refine ⟨reads.document, fun r mem t mem' x mem'' => ?_⟩
    have number : x.isFinite = true := by
      have region := List.all_eq_true.1 finite r mem
      have tensor := List.all_eq_true.1 region t mem'
      exact List.all_eq_true.1 tensor x mem''
    exact document_reread number
  · rename_i infinite
    rw [if_neg infinite] at reads
    exact reads.document_none

end Frame

end FaceAnnotator
