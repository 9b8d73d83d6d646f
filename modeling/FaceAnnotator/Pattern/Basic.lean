import FaceAnnotator.Pattern.CharSet
/-!
# FaceAnnotator.Pattern.Basic

**What a pattern asks of a text.**

A `Pattern` is built by functions that leave out what makes no difference: `sequence` has no empty
members, `choice` between single characters or between sets is a set, and what can only fit the
empty text is not repeated more than once.
-/

namespace FaceAnnotator

namespace Pattern

/-- What may be asked of the border between two characters, if words are made of letters, digits and
low lines. -/
inductive WordEdge where
  /-- One of the two belongs to a word and the other does not. -/
  | boundary
  /-- Both belong to a word, or none does. -/
  | noBoundary
  /-- A word begins. -/
  | start
  /-- A word ends. -/
  | stop
  /-- The character before belongs to no word. -/
  | startHalf
  /-- The character behind belongs to no word. -/
  | stopHalf
deriving DecidableEq, Repr

/-- What may be asked of a place in a text. -/
inductive Assertion where
  | textStart
  | textEnd
  /-- A line starts; it may end with two characters if `long` is true. -/
  | lineStart (long : Bool)
  /-- A line ends; it may end with two characters if `long` is true. -/
  | lineEnd (long : Bool)
  /-- A word has some edge. If `ascii` is true, only ASCII characters are letters and digits. -/
  | word (edge : WordEdge) (ascii : Bool)
deriving DecidableEq, Repr

end Pattern

/-- What is asked of a text. -/
inductive Pattern where
  /-- Nothing. -/
  | nothing
  /-- A character of some set. -/
  | oneOf (set : Pattern.CharSet)
  /-- Something about a place. -/
  | holding (assertion : Pattern.Assertion)
  /-- Something that is remembered. -/
  | remembered (body : Pattern)
  /-- One thing and then another. -/
  | sequence (first second : Pattern)
  /-- One thing or another. -/
  | choice (first second : Pattern)
  /-- Something so many times, or any number of times from `least` on. -/
  | repeated (body : Pattern) (least : Nat) (most : Option Nat)
deriving Repr

namespace Pattern

/-- Whether a pattern fits the empty text at most. -/
def isStill : Pattern → Bool
  | nothing => true
  | oneOf _ => false
  | holding _ => true
  | remembered body => body.isStill
  | sequence first second => first.isStill && second.isStill
  | choice first second => first.isStill && second.isStill
  | repeated body _ _ => body.isStill

/-- One pattern and then another. -/
def followedBy : Pattern → Pattern → Pattern
  | nothing, second => second
  | first, nothing => first
  | first, second => sequence first second

/-- Some patterns, one after the other. -/
def inOrder : List Pattern → Pattern
  | [] => nothing
  | first :: others => first.followedBy (inOrder others)

/-- The branches of a pattern. -/
def branches : Pattern → List Pattern
  | choice first second => first.branches ++ second.branches
  | p => [p]

/-- The sets of some patterns, if all of them are sets. -/
def sets? : List Pattern → Option (List CharSet)
  | [] => some []
  | oneOf set :: others => (sets? others).map (set :: ·)
  | _ :: _ => none

/-- One of some patterns. -/
def anyOf : List Pattern → Pattern
  | [] => oneOf CharSet.empty
  | [branch] => branch
  | first :: others => choice first (anyOf others)

/-- One of some patterns, as one set if that is simple. -/
def oneOfThese (patterns : List Pattern) : Pattern :=
  let branches := patterns.flatMap branches
  match sets? branches with
  | some sets =>
    if sets.all CharSet.isSingle || sets.all fun set => !set.isSingle then
      oneOf (sets.foldl CharSet.union CharSet.empty)
    else anyOf branches
  | none => anyOf branches

/-- A pattern again and again. -/
def times (body : Pattern) (least : Nat) (most : Option Nat) : Pattern :=
  let still := body.isStill
  let least := if still then min least 1 else least
  let most := if still then some (min (most.getD 1) 1) else most
  if most = some 0 then nothing
  else if least = 1 && most = some 1 then body
  else repeated body least most

/-! ### Edges of words that need a table of all letters -/

/-- Whether a pattern asks for an edge of a word of letters of all scripts. -/
def asksForLetters : Pattern → Bool
  | nothing => false
  | oneOf _ => false
  | holding (.word _ ascii) => !ascii
  | holding _ => false
  | remembered body => body.asksForLetters
  | sequence first second => first.asksForLetters || second.asksForLetters
  | choice first second => first.asksForLetters || second.asksForLetters
  | repeated body _ _ => body.asksForLetters

end Pattern

end FaceAnnotator
