/-!
# FaceAnnotator.Pattern.CharSet

**Sets of characters.**

A set is a list of ranges in order, with a gap after each of them. So that ranges can lie side by
side although no character is a surrogate, a character goes by its `rank` among all characters and
not by its number.
-/

namespace FaceAnnotator.Pattern

/-- A set of characters. -/
structure CharSet where
  /-- The ranks of the first and last character of each range. -/
  ranges : List (Nat × Nat) := []
deriving DecidableEq, Repr

namespace CharSet

/-- How many characters come before a character. There are 2048 surrogates, which are none. -/
def rank (c : Char) : Nat := if c.toNat < 0xD800 then c.toNat else c.toNat - 0x800

/-- The rank of the last character. -/
def lastRank : Nat := 0x10F7FF

/-- Whether a number lies in one of some ranges. -/
def covers (ranges : List (Nat × Nat)) (n : Nat) : Bool :=
  ranges.any fun (first, last) => first ≤ n && n ≤ last

/-- Whether a character is in a set. -/
def contains (set : CharSet) (c : Char) : Bool := covers set.ranges (rank c)

/-- Puts a range among others. The ranges that it meets or touches become one with it. -/
def insertRange (first last : Nat) : List (Nat × Nat) → List (Nat × Nat)
  | [] => [(first, last)]
  | (a, b) :: rest =>
    if last + 1 < a then (first, last) :: (a, b) :: rest
    else if b + 1 < first then (a, b) :: insertRange first last rest
    else insertRange (min first a) (max last b) rest

/-- The gaps between ranges, from a number on. -/
def gapsFrom (n : Nat) : List (Nat × Nat) → List (Nat × Nat)
  | [] => if n ≤ lastRank then [(n, lastRank)] else []
  | (a, b) :: rest =>
    if n < a then (n, a - 1) :: gapsFrom (b + 1) rest else gapsFrom (b + 1) rest

/-- No character. -/
def empty : CharSet := {}

/-- Whether there is no character in a set. -/
def isEmpty (set : CharSet) : Bool := set.ranges.isEmpty

/-- The characters between two characters, with both of them. -/
def ofRange (first last : Char) : CharSet := ⟨[(rank first, rank last)]⟩

/-- One character. -/
def ofChar (c : Char) : CharSet := ofRange c c

/-- The characters in one of two sets. -/
def union (s t : CharSet) : CharSet :=
  ⟨t.ranges.foldl (fun ranges (first, last) => insertRange first last ranges) s.ranges⟩

/-- The characters that are not in a set. -/
def complement (set : CharSet) : CharSet := ⟨gapsFrom 0 set.ranges⟩

/-- The characters in both of two sets. -/
def inter (s t : CharSet) : CharSet := (s.complement.union t.complement).complement

/-- The characters in the first of two sets only. -/
def diff (s t : CharSet) : CharSet := s.inter t.complement

/-- The characters in exactly one of two sets. -/
def symmDiff (s t : CharSet) : CharSet := (s.union t).diff (s.inter t)

/-- The set of all characters of some ranges. -/
def ofRanges (ranges : List (Char × Char)) : CharSet :=
  ranges.foldl (fun set (first, last) => set.union (ofRange first last)) empty

/-- The part of a range in another one, moved by some ranks. -/
def moved (low high : Nat) (move : Nat → Nat) (range : Nat × Nat) : CharSet :=
  let first := max low range.1
  let last := min high range.2
  if first ≤ last then ⟨[(move first, move last)]⟩ else empty

/-- A set with the other form of each Latin letter in it. -/
def withBothCases (set : CharSet) : CharSet :=
  set.ranges.foldl
    (fun both range =>
      (both.union (moved 0x41 0x5A (· + 0x20) range)).union (moved 0x61 0x7A (· - 0x20) range))
    set

/-- Whether all characters in a set are ASCII. -/
def isAscii (set : CharSet) : Bool := set.ranges.all fun (_, last) => last < 0x80

/-- Whether a set has exactly one character. -/
def isSingle (set : CharSet) : Bool :=
  match set.ranges with
  | [(first, last)] => first = last
  | _ => false

end CharSet

end FaceAnnotator.Pattern
