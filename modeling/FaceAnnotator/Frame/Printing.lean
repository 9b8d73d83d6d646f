import FaceAnnotator.Frame.Basic
import FaceAnnotator.Json.Printing
/-!
# FaceAnnotator.Frame.Printing

**Writing frames as JSON**, the fields always in the same order. A label that is not set is left
out; empty lists are written.
-/

namespace FaceAnnotator

open Json

/-- The pieces of a tensor. -/
def Tensor.pieces (t : Tensor) : Pieces :=
  objectPieces <|
    [memberPieces "name" (literal t.name.toList),
      memberPieces "layer_name" (literal t.layer.toList),
      memberPieces "data" (listPieces (t.data.map singlePieces))] ++
    t.label.toList.map fun label => memberPieces "label" (literal label.toList)

/-- The pieces of a region. -/
def Region.pieces (r : Region) : Pieces :=
  objectPieces
    [memberPieces "x" (integerPieces r.x.toInt),
      memberPieces "y" (integerPieces r.y.toInt),
      memberPieces "width" (integerPieces r.width.toInt),
      memberPieces "height" (integerPieces r.height.toInt),
      memberPieces "tensors" (listPieces (r.tensors.map Tensor.pieces))]

/-- The pieces of a frame. -/
def Frame.pieces (f : Frame) : Pieces :=
  objectPieces
    [memberPieces "index" (integerPieces f.index.toNat),
      memberPieces "regions" (listPieces (f.regions.map Region.pieces))]

/-- The JSON text of a tensor. -/
def Tensor.json (t : Tensor) : List Char := t.pieces.flatten

/-- The JSON text of a region. -/
def Region.json (r : Region) : List Char := r.pieces.flatten

/-- The JSON text of a frame. -/
def Frame.json (f : Frame) : List Char := f.pieces.flatten

end FaceAnnotator
