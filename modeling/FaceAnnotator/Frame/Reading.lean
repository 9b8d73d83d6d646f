import FaceAnnotator.Frame.Basic
import FaceAnnotator.Json.Schema
/-!
# FaceAnnotator.Frame.Reading

**Reading frames from JSON.**

Three schemas, one in the other. The regions of a frame, the tensors of a region and the label of a
tensor may be left out; nothing else may.
-/

namespace FaceAnnotator

open Json

namespace Tensor

/-- The fields of a tensor that have been read. -/
structure Draft where
  name : Option String := none
  layer : Option String := none
  data : Option (List Numeric.Single) := none
  /-- `some none` is a label that is given as `null`. -/
  label : Option (Option String) := none

/-- How to read a tensor. -/
def schema : Schema Draft Tensor where
  expected := "struct Tensor"
  none := {}
  fields := [
    { name := "name", required := true, isSet := fun d => d.name.isSome
      read := fun d rest => (text rest).map fun (s, rest) => ({ d with name := some s }, rest) },
    { name := "layer_name", required := true, isSet := fun d => d.layer.isSome
      read := fun d rest => (text rest).map fun (s, rest) => ({ d with layer := some s }, rest) },
    { name := "data", required := true, isSet := fun d => d.data.isSome
      read := fun d rest =>
        (list single rest).map fun (xs, rest) => ({ d with data := some xs }, rest) },
    { name := "label", required := false, isSet := fun d => d.label.isSome
      read := fun d rest =>
        (optionalText rest).map fun (l, rest) => ({ d with label := some l }, rest) }]
  build := fun d =>
    match d.name, d.layer, d.data with
    | some name, some layer, some data => .ok ⟨name, layer, data, d.label.join⟩
    | none, _, _ => .error "name"
    | _, none, _ => .error "layer_name"
    | _, _, none => .error "data"

/-- Reads a tensor. -/
def read : Reader Tensor := schema.read

end Tensor

namespace Region

/-- The fields of a region that have been read. -/
structure Draft where
  x : Option Int32 := none
  y : Option Int32 := none
  width : Option Int32 := none
  height : Option Int32 := none
  tensors : Option (List Tensor) := none

/-- Reads a coordinate or an extent. -/
def readExtent : Reader Int32 := fun rest =>
  (integer "i32" (-2147483648) 2147483647 rest).map fun (n, rest) => (Int32.ofInt n, rest)

/-- How to read a region. -/
def schema : Schema Draft Region where
  expected := "struct Region"
  none := {}
  fields := [
    { name := "x", required := true, isSet := fun d => d.x.isSome
      read := fun d rest => (readExtent rest).map fun (n, rest) => ({ d with x := some n }, rest) },
    { name := "y", required := true, isSet := fun d => d.y.isSome
      read := fun d rest => (readExtent rest).map fun (n, rest) => ({ d with y := some n }, rest) },
    { name := "width", required := true, isSet := fun d => d.width.isSome
      read := fun d rest =>
        (readExtent rest).map fun (n, rest) => ({ d with width := some n }, rest) },
    { name := "height", required := true, isSet := fun d => d.height.isSome
      read := fun d rest =>
        (readExtent rest).map fun (n, rest) => ({ d with height := some n }, rest) },
    { name := "tensors", required := false, isSet := fun d => d.tensors.isSome
      read := fun d rest =>
        (list Tensor.read rest).map fun (ts, rest) => ({ d with tensors := some ts }, rest) }]
  build := fun d =>
    match d.x, d.y, d.width, d.height with
    | some x, some y, some width, some height => .ok ⟨x, y, width, height, d.tensors.getD []⟩
    | none, _, _, _ => .error "x"
    | _, none, _, _ => .error "y"
    | _, _, none, _ => .error "width"
    | _, _, _, none => .error "height"

/-- Reads a region. -/
def read : Reader Region := schema.read

end Region

namespace Frame

/-- The fields of a frame that have been read. -/
structure Draft where
  index : Option UInt64 := none
  regions : Option (List Region) := none

/-- Reads the number of a frame. -/
def readIndex : Reader UInt64 := fun rest =>
  (integer "usize" 0 18446744073709551615 rest).map fun (n, rest) => (UInt64.ofNat n.toNat, rest)

/-- How to read a frame. -/
def schema : Schema Draft Frame where
  expected := "struct Frame"
  none := {}
  fields := [
    { name := "index", required := true, isSet := fun d => d.index.isSome
      read := fun d rest =>
        (readIndex rest).map fun (n, rest) => ({ d with index := some n }, rest) },
    { name := "regions", required := false, isSet := fun d => d.regions.isSome
      read := fun d rest =>
        (list Region.read rest).map fun (rs, rest) => ({ d with regions := some rs }, rest) }]
  build := fun d =>
    match d.index with
    | some index => .ok ⟨index, d.regions.getD []⟩
    | none => .error "index"

/-- Reads a frame. -/
def read : Reader Frame := schema.read

/-- The frame that a text is. -/
def ofJson (text : List Char) : Except Complaint Frame := document read text

end Frame

/-- The tensor that a text is. -/
def Tensor.ofJson (text : List Char) : Except Complaint Tensor := document Tensor.read text

/-- The region that a text is. -/
def Region.ofJson (text : List Char) : Except Complaint Region := document Region.read text

end FaceAnnotator
