import FaceAnnotator.Text.Split
/-!
# FaceAnnotator.FileSystem.Path

**Paths as they are written**, before anybody follows them.

A path is split at its slashes. What is between two of them is a *segment*: a name, `.` for the
place itself, or `..` for the directory above. Repeated slashes count once. A slash at the end is
noticed, because a path that ends in one can only mean a directory.

What makes no difference to where a path leads still counts for its length, and a path can be too
long to be followed at all. So a `Path` keeps its text.

A `Location` is what remains when a path has been followed to its end: plain names from the root on.
-/

namespace FaceAnnotator

/-- The names from the root to a place, without `.`, `..` and links. -/
abbrev Location := List String

/-- The absolute text of a location. -/
def Location.text (location : Location) : String :=
  if location.isEmpty then "/" else String.join (location.map fun name => "/" ++ name)

/-- A path as it is written. -/
structure Path where
  text : String
deriving DecidableEq, Repr

namespace Path

/-- The path of a location. -/
def ofLocation (location : Location) : Path := ⟨location.text⟩

/-- Whether the path begins at the root. -/
def absolute (p : Path) : Bool := p.text.toList.head? = some '/'

/-- Whether the path ends in a slash. -/
def slash (p : Path) : Bool := p.text.toList.getLast? = some '/'

/-- Names, `.` and `..`. -/
def segments (p : Path) : List String :=
  ((Text.splitAt '/' p.text.toList).filter fun part => !part.isEmpty).map String.ofList

/-- Whether the path is written with nothing at all. -/
def isEmpty (p : Path) : Bool := p.text = ""

/-- Whether the path holds the character that ends all names. -/
def isCut (p : Path) : Bool := p.text.toList.contains '\x00'

/-- How many bytes are too many for a path that is to be followed. -/
def sizeLimit : Nat := 4096

/-- Whether the path is too long to be followed. -/
def isOverlong (p : Path) : Bool := sizeLimit ≤ p.text.utf8ByteSize

/-- The segments that lead anywhere: a `.` stays where it is. -/
def components (p : Path) : List String := p.segments.filter fun segment => segment != "."

/-! ### The path of the directory above

The texts here are read from their ends, so they are given in reverse. -/

/-- A text in reverse without what leads nowhere at its end: slashes, and `.` between them. -/
def withoutIdle : List Char → List Char
  | '/' :: rest => withoutIdle rest
  | ['.'] => []
  | '.' :: '/' :: rest => withoutIdle rest
  | text => text

/-- A text in reverse without its last segment. -/
def withoutLast (text : List Char) : List Char := (text.dropWhile fun c => c ≠ '/').drop 1

theorem length_withoutIdle_le (text : List Char) : (withoutIdle text).length ≤ text.length := by
  fun_induction withoutIdle text with
  | case1 rest ih => simp only [List.length_cons]; omega
  | case2 => simp
  | case3 rest ih => simp only [List.length_cons]; omega
  | case4 => exact Nat.le_refl _

theorem length_withoutLast_lt {text : List Char} (h : text ≠ []) :
    (withoutLast text).length < text.length := by
  have least := List.length_pos_iff.2 h
  have most := (List.dropWhile_sublist (l := text) fun c => decide (c ≠ '/')).length_le
  simp only [withoutLast, List.length_drop]
  omega

/-- The root or the `.` that a path begins with, and what follows. -/
def splitStart (text : List Char) : List Char × List Char :=
  match text with
  | '/' :: rest => (['/'], rest)
  | ['.'] => (['.'], [])
  | '.' :: '/' :: rest => (['.'], '/' :: rest)
  | text => ([], text)

theorem splitStart_append (text : List Char) :
    (splitStart text).1 ++ (splitStart text).2 = text := by
  unfold splitStart
  split <;> rfl

/-- The path of the directory that holds what a path names; none if the path names nothing in one.
It is written as the path is, up to the end of its last segment. -/
def parent? (p : Path) : Option Path :=
  let start := (splitStart p.text.toList).1
  match withoutIdle (splitStart p.text.toList).2.reverse with
  | [] => if start = ['.'] then some ⟨""⟩ else none
  | last => some ⟨String.ofList (start ++ (withoutIdle (withoutLast last)).reverse)⟩

/-- The path of the directory above is shorter. -/
theorem length_parent?_lt {p q : Path} (h : p.parent? = some q) :
    q.text.toList.length < p.text.toList.length := by
  have whole := congrArg List.length (splitStart_append p.text.toList)
  have idle := length_withoutIdle_le (splitStart p.text.toList).2.reverse
  rw [List.length_append] at whole
  rw [List.length_reverse] at idle
  unfold parent? at h
  dsimp only at h
  split at h
  · split at h
    · rename_i start
      rw [start] at whole
      cases h
      simp only [String.toList_empty, List.length_nil, List.length_cons] at whole ⊢
      omega
    · contradiction
  · rename_i last nonempty
    cases h
    have shorter : (withoutLast (withoutIdle (splitStart p.text.toList).2.reverse)).length <
        (withoutIdle (splitStart p.text.toList).2.reverse).length :=
      length_withoutLast_lt fun eq => by simp_all
    have less :=
      length_withoutIdle_le (withoutLast (withoutIdle (splitStart p.text.toList).2.reverse))
    simp only [String.toList_ofList, List.length_append, List.length_reverse]
    omega

/-- The paths of the directories above, the nearest first. -/
def ancestors (p : Path) : List Path :=
  match _above : p.parent? with
  | none => []
  | some parent => parent :: parent.ancestors
termination_by p.text.toList.length
decreasing_by exact length_parent?_lt _above

end Path

/-- Whether a location makes a path that can be followed. -/
def Location.isAddressable (location : Location) : Bool :=
  !(Path.ofLocation location).isCut && !(Path.ofLocation location).isOverlong

end FaceAnnotator
