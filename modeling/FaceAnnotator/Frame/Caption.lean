import FaceAnnotator.Frame.Basic
import FaceAnnotator.Text.Blank
/-!
# FaceAnnotator.Frame.Caption

**The overlay text of a region**: the labels of its tensors in tensor order, each without the blanks
at its ends, with one space between two of them. Labels that are blank all through are left out, so
a caption is empty when there is nothing to show.
-/

namespace FaceAnnotator.Region

/-- The labels that a caption shows, trimmed. -/
def captionWords (r : Region) : List (List Char) :=
  (r.tensors.filterMap fun t => t.label.map fun text => Text.trim text.toList).filter
    fun word => !word.isEmpty

/-- The overlay text. -/
def caption (r : Region) : String := String.ofList ([' '].intercalate r.captionWords)

/-- No word of a caption is empty. -/
theorem ne_nil_of_mem_captionWords {r : Region} {word : List Char} (h : word ∈ r.captionWords) :
    word ≠ [] := by
  have := (List.mem_filter.mp h).2
  simpa using this

end FaceAnnotator.Region
