import FaceAnnotator.Pattern.Fault
import FaceAnnotator.Text.Blank
/-!
# FaceAnnotator.Pattern.Cursor

**A place in a pattern that is being read.**

A reader takes a cursor and gives, with what it has read, the cursor behind that. In a *loose*
pattern blanks and comments may stand almost everywhere; a comment begins with a number sign and
ends with its line. `settle` passes over them, and `advance` does so behind one character.
-/

namespace FaceAnnotator.Pattern

/-- A place in a pattern. -/
structure Cursor where
  /-- The characters behind the place. -/
  rest : List Char
  /-- How many characters are before it. -/
  passed : Nat := 0
deriving DecidableEq, Repr

/-- What is read from some place on, and the place behind it. -/
abbrev Reading (α : Type) := Except Fault (α × Cursor)

namespace Cursor

/-- The empty stretch at a place. -/
def here (c : Cursor) : Span := ⟨c.passed, c.passed⟩

/-- The stretch of the next character. -/
def nextSpan (c : Cursor) : Span := ⟨c.passed, c.passed + 1⟩

/-- The stretch from an earlier place on. -/
def since (c : Cursor) (start : Nat) : Span := ⟨start, c.passed⟩

/-- The place behind the next character. -/
def step (c : Cursor) : Cursor :=
  match c.rest with
  | [] => c
  | _ :: rest => ⟨rest, c.passed + 1⟩

/-- The place behind blanks and comments. -/
def pastBlanks (inComment : Bool) (passed : Nat) : List Char → Cursor
  | [] => ⟨[], passed⟩
  | d :: rest =>
    if inComment then pastBlanks (d ≠ '\n') (passed + 1) rest
    else if Text.isBlank d then pastBlanks false (passed + 1) rest
    else if d = '#' then pastBlanks true (passed + 1) rest
    else ⟨d :: rest, passed⟩

/-- The place from which something is read: in a loose pattern it is behind blanks and comments. -/
def settle (loose : Bool) (c : Cursor) : Cursor :=
  if loose then pastBlanks false c.passed c.rest else c

/-- The place from which something is read behind the next character. -/
def advance (loose : Bool) (c : Cursor) : Cursor := c.step.settle loose

theorem length_pastBlanks_le (inComment : Bool) (passed : Nat) (text : List Char) :
    (pastBlanks inComment passed text).rest.length ≤ text.length := by
  induction text generalizing inComment passed with
  | nil => exact Nat.le_refl _
  | cons d rest ih =>
    unfold pastBlanks
    split
    · exact Nat.le_succ_of_le (ih ..)
    · split
      · exact Nat.le_succ_of_le (ih ..)
      · split
        · exact Nat.le_succ_of_le (ih ..)
        · exact Nat.le_refl _

theorem length_settle_le (loose : Bool) (c : Cursor) :
    (c.settle loose).rest.length ≤ c.rest.length := by
  unfold settle
  split
  · exact length_pastBlanks_le ..
  · exact Nat.le_refl _

theorem length_advance_lt {loose : Bool} {c : Cursor} {d : Char} {rest : List Char}
    (h : c.rest = d :: rest) : (c.advance loose).rest.length < c.rest.length := by
  have := length_settle_le loose c.step
  unfold advance
  simp only [step, h, List.length_cons] at this ⊢
  omega

/-- The characters that are next and of some kind, and the place behind them. -/
def takeWhile (loose : Bool) (kind : Char → Bool) (c : Cursor) : List Char × Cursor :=
  match _more : c.rest with
  | [] => ([], c)
  | d :: _ =>
    if kind d then
      let (run, behind) := takeWhile loose kind (c.advance loose)
      (d :: run, behind)
    else ([], c)
termination_by c.rest.length
decreasing_by exact length_advance_lt _more

/-- The place behind some characters, if they are the next ones. -/
def after? (word : List Char) (c : Cursor) : Option Cursor :=
  if word.isPrefixOf c.rest then some ⟨c.rest.drop word.length, c.passed + word.length⟩ else none

/-- The character behind the next one. In a loose pattern a blank is not looked at, nor is the first
number sign; what follows that is, even though it is in a comment. -/
def second (loose : Bool) (c : Cursor) : Option Char :=
  let behind := c.rest.tail
  if loose then
    match behind.dropWhile Text.isBlank with
    | '#' :: comment => (comment.dropWhile Text.isBlank).head?.or behind.head?
    | d :: _ => some d
    | [] => behind.head?
  else behind.head?

end Cursor

end FaceAnnotator.Pattern
