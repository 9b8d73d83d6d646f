import FaceAnnotator.Pattern.Fault
/-!
# FaceAnnotator.Pattern.Form

**A pattern as it is written.**

A `Form` keeps every part of a pattern together with its stretch of the text, so that a part which
turns out to mean nothing can still be pointed at. What a form means is said in
`FaceAnnotator.Pattern.Meaning`.
-/

namespace FaceAnnotator.Pattern

/-- A character as it is written. -/
structure Literal where
  span : Span
  char : Char
  /-- Whether it is written with two digits. Where a pattern is about bytes, that writes a byte. -/
  isByte : Bool := false
deriving DecidableEq, Repr

/-- Kinds of characters that a letter behind a backslash stands for. -/
inductive Shorthand where
  | digit
  | space
  | word
deriving DecidableEq, Repr

/-- Sets that go by a name. All of them are sets of ASCII characters. -/
inductive NamedSet where
  | alnum
  | alpha
  | ascii
  | blank
  | cntrl
  | digit
  | graph
  | lower
  | print
  | punct
  | space
  | upper
  | word
  | xdigit
deriving DecidableEq, Repr

/-- The names of the sets that have one. -/
def NamedSet.names : List (String × NamedSet) := [
  ("alnum", alnum), ("alpha", alpha), ("ascii", ascii), ("blank", blank), ("cntrl", cntrl),
  ("digit", digit), ("graph", graph), ("lower", lower), ("print", print), ("punct", punct),
  ("space", space), ("upper", upper), ("word", word), ("xdigit", xdigit)]

/-- How two sets become one. -/
inductive SetOperation where
  | both
  | firstOnly
  | oneOnly
deriving DecidableEq, Repr

/-- What stands between the brackets of a set. -/
inductive SetForm where
  | empty (span : Span)
  | literal (l : Literal)
  | range (span : Span) (first last : Literal)
  | named (span : Span) (name : NamedSet) (negated : Bool)
  | property (span : Span) (name : List Char)
  | shorthand (span : Span) (kind : Shorthand) (negated : Bool)
  | bracketed (span : Span) (negated : Bool) (content : SetForm)
  | union (span : Span) (parts : List SetForm)
  | combined (span : Span) (operation : SetOperation) (left right : SetForm)
deriving Repr

/-- The stretch of a part of a set. -/
def SetForm.span : SetForm → Span
  | empty s => s
  | literal l => l.span
  | range s .. => s
  | named s .. => s
  | property s _ => s
  | shorthand s .. => s
  | bracketed s .. => s
  | union s _ => s
  | combined s .. => s

/-- What may be asked of a place in a text. -/
inductive Anchor where
  | lineStart
  | lineEnd
  | textStart
  | textEnd
  | wordBoundary
  | noWordBoundary
  | wordStart
  | wordEnd
  | wordStartHalf
  | wordEndHalf
deriving DecidableEq, Repr

/-- The word boundaries that go by a name. -/
def Anchor.names : List (String × Anchor) := [
  ("start", wordStart), ("end", wordEnd), ("start-half", wordStartHalf), ("end-half", wordEndHalf)]

/-- What a part of a pattern can be read with. -/
inductive Flag where
  /-- Capital and small letters are the same. -/
  | anyCase
  /-- A line of the text has a start and an end of its own. -/
  | manyLines
  /-- A dot stands for the end of a line as well. -/
  | dotIsAll
  /-- Repetitions are short unless said otherwise. -/
  | shortFirst
  /-- The pattern is about characters and not about bytes. -/
  | characters
  /-- A line may end with two characters. -/
  | longLineEnds
  /-- Blanks and comments between the parts mean nothing. -/
  | loose
deriving DecidableEq, Repr

/-- The letters that write the flags. -/
def Flag.ofLetter? (c : Char) : Option Flag :=
  if c = 'i' then some anyCase
  else if c = 'm' then some manyLines
  else if c = 's' then some dotIsAll
  else if c = 'U' then some shortFirst
  else if c = 'u' then some characters
  else if c = 'R' then some longLineEnds
  else if c = 'x' then some loose
  else none

/-- Flags that are switched, each on or off. -/
abbrev FlagChange := List (Flag × Bool)

/-- What becomes of a flag. -/
def FlagChange.apply (change : FlagChange) (flag : Flag) (before : Bool) : Bool :=
  (change.lookup flag).getD before

/-- What is special about a group. -/
inductive GroupKind where
  /-- Its text is remembered. -/
  | remembered
  /-- Flags are switched in it. -/
  | switching (change : FlagChange)
deriving DecidableEq, Repr

/-- A pattern as it is written. -/
inductive Form where
  | empty (span : Span)
  | flags (span : Span) (change : FlagChange)
  | literal (l : Literal)
  | dot (span : Span)
  | anchor (span : Span) (anchor : Anchor)
  | property (span : Span) (name : List Char)
  | shorthand (span : Span) (kind : Shorthand) (negated : Bool)
  | set (span : Span) (negated : Bool) (content : SetForm)
  | repeated (span : Span) (least : Nat) (most : Option Nat) (body : Form)
  | group (span : Span) (kind : GroupKind) (body : Form)
  | sequence (span : Span) (parts : List Form)
  | choice (span : Span) (branches : List Form)
deriving Repr

/-- The stretch of a part of a pattern. -/
def Form.span : Form → Span
  | empty s => s
  | flags s _ => s
  | literal l => l.span
  | dot s => s
  | anchor s _ => s
  | property s _ => s
  | shorthand s .. => s
  | set s .. => s
  | repeated s .. => s
  | group s .. => s
  | sequence s _ => s
  | choice s _ => s

/-! ### How deep a form is

What is nested deeper than `depthLimit` is pointed at, the first such part first. -/

mutual

/-- Looks for what is nested too deep in a part of a set that `room` more levels are left for. -/
def SetForm.checkDepth (room : Nat) : SetForm → Except Fault Unit
  | .bracketed span _ content =>
    match room with
    | 0 => .error ⟨.tooDeep, span, none⟩
    | room + 1 => content.checkDepth room
  | .union span parts =>
    match room with
    | 0 => .error ⟨.tooDeep, span, none⟩
    | room + 1 => SetForm.checkDepths room parts
  | .combined span _ left right =>
    match room with
    | 0 => .error ⟨.tooDeep, span, none⟩
    | room + 1 =>
      match left.checkDepth room with
      | .error fault => .error fault
      | .ok _ => right.checkDepth room
  | _ => .ok ()

/-- Looks for what is nested too deep in parts of a set. -/
def SetForm.checkDepths (room : Nat) : List SetForm → Except Fault Unit
  | [] => .ok ()
  | part :: parts =>
    match part.checkDepth room with
    | .error fault => .error fault
    | .ok _ => SetForm.checkDepths room parts

end

mutual

/-- Looks for what is nested too deep in a pattern that `room` more levels are left for. -/
def Form.checkDepth (room : Nat) : Form → Except Fault Unit
  | .set span _ content =>
    match room with
    | 0 => .error ⟨.tooDeep, span, none⟩
    | room + 1 => content.checkDepth room
  | .repeated span _ _ body =>
    match room with
    | 0 => .error ⟨.tooDeep, span, none⟩
    | room + 1 => body.checkDepth room
  | .group span _ body =>
    match room with
    | 0 => .error ⟨.tooDeep, span, none⟩
    | room + 1 => body.checkDepth room
  | .sequence span parts =>
    match room with
    | 0 => .error ⟨.tooDeep, span, none⟩
    | room + 1 => Form.checkDepths room parts
  | .choice span branches =>
    match room with
    | 0 => .error ⟨.tooDeep, span, none⟩
    | room + 1 => Form.checkDepths room branches
  | _ => .ok ()

/-- Looks for what is nested too deep in parts of a pattern. -/
def Form.checkDepths (room : Nat) : List Form → Except Fault Unit
  | [] => .ok ()
  | part :: parts =>
    match part.checkDepth room with
    | .error fault => .error fault
    | .ok _ => Form.checkDepths room parts

end

end FaceAnnotator.Pattern
