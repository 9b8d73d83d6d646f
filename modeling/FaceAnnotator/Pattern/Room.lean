import FaceAnnotator.Pattern.Basic
/-!
# FaceAnnotator.Pattern.Room

**How much room a pattern takes**, if every repetition in it is written out.

A pattern is measured as an automaton over the bytes of a text: so many bytes for each state, and
some more for each way out of a state. It is measured in both directions, for the end of a match is
looked for forwards and its beginning backwards. A pattern may not take more room than `roomLimit`.
-/

namespace FaceAnnotator.Pattern

/-- The room that a pattern may take, in bytes. -/
def roomLimit : Nat := 10485760

/-- The room of one state. -/
def stateRoom : Nat := 32

/-- The room of a state with two ways out. -/
def forkRoom : Nat := stateRoom + 2 * 4

/-- Whether whatever a pattern fits has a character. -/
def isMoving : Pattern → Bool
  | nothing => false
  | oneOf set => !set.isEmpty
  | holding _ => false
  | remembered body => body.isMoving
  | sequence first second => first.isMoving || second.isMoving
  | choice first second => first.isMoving && second.isMoving
  | repeated body least _ => least ≠ 0 && body.isMoving

/-- The number of bytes of the only character of a set. -/
def CharSet.width (set : CharSet) : Nat :=
  match set.ranges with
  | [(n, _)] => if n < 0x80 then 1 else if n < 0x800 then 2 else if n < 0xF800 then 3 else 4
  | _ => 0

/-- The room of a set. Beyond ASCII there are eight shapes of characters with 26 bytes together;
forwards they share the seven states behind their first bytes. -/
def CharSet.room (backwards : Bool) (set : CharSet) : Nat :=
  let ascii := (set.ranges.filter fun (first, _) => first < 0x80).length
  if set.isEmpty then stateRoom
  else if set.isSingle then set.width * stateRoom
  else if set.isAscii then 2 * stateRoom + 8 * ascii
  else if backwards then (ascii + 26 + 2) * stateRoom + 4 * (ascii + 8)
  else 9 * stateRoom + 8 * (ascii + 8 + 7)

/-- The room of something that takes `body` and is repeated. -/
def repeatedRoom (body : Nat) (moving : Bool) (least : Nat) : Option Nat → Nat
  | none =>
    if least ≠ 0 then least * body + forkRoom
    else if moving then body + forkRoom
    else body + 2 * forkRoom + stateRoom
  | some most =>
    if least = most then least * body
    else
      let written := if least = 0 && most ≠ 1 then stateRoom else least * body
      written + stateRoom + (most - least) * (body + forkRoom)

/-- Whether a pattern is one thing or another. -/
def isChoice : Pattern → Bool
  | choice .. => true
  | _ => false

/-- The room of a pattern. All branches of a choice share two states, and what is remembered takes
room forwards only. -/
def room (backwards : Bool) : Pattern → Nat
  | nothing => stateRoom
  | oneOf set => set.room backwards
  | holding _ => stateRoom
  | remembered body => (if backwards then 0 else 2 * stateRoom) + body.room backwards
  | sequence first second => first.room backwards + second.room backwards
  | choice first second =>
    (4 + first.room backwards) + second.room backwards +
      if second.isChoice then 0 else 4 + 2 * stateRoom
  | repeated body least most => repeatedRoom (body.room backwards) body.isMoving least most

/-- The room of what goes round a pattern: it may begin anywhere, and its end is marked. -/
def frameRoom (backwards : Bool) : Nat :=
  if backwards then 2 * stateRoom else forkRoom + 4 * stateRoom

/-- Whether a pattern takes too much room. -/
def isOverlarge (backwards : Bool) (p : Pattern) : Bool :=
  roomLimit < p.room backwards + frameRoom backwards

end FaceAnnotator.Pattern
