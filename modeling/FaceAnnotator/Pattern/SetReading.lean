import FaceAnnotator.Pattern.Escape
/-!
# FaceAnnotator.Pattern.SetReading

**Reading what stands between the brackets of a set.**

Sets may be nested, and operators combine everything before them with everything up to the next one.
The sets that enclose the one being read are kept in a list, innermost first: `setFrom` is a loop.
-/

namespace FaceAnnotator.Pattern

/-- A set that is being read. -/
structure OpenSet where
  /-- The stretch of what opens it. -/
  opening : Span
  /-- Whether it is the set of all other characters. -/
  negated : Bool
  /-- What is to be combined with what follows, and how. -/
  pending : Option (SetForm × SetOperation) := none
  /-- Where the parts begin that are not yet combined with anything. -/
  start : Nat
  /-- Those parts, the last one first. -/
  parts : List SetForm := []

namespace OpenSet

/-- A set with one more part. -/
def push (s : OpenSet) (part : SetForm) : OpenSet := { s with parts := part :: s.parts }

/-- The parts that are not yet combined with anything, as one. -/
def joined (s : OpenSet) : SetForm :=
  match s.parts, s.parts.reverse with
  | [part], _ => part
  | last :: _, first :: others => .union ⟨first.span.start, last.span.stop⟩ (first :: others)
  | _, _ => .empty ⟨s.start, s.start⟩

/-- All that has been read of a set, as one part. -/
def content (s : OpenSet) : SetForm :=
  match s.pending with
  | none => s.joined
  | some (left, operation) =>
    .combined ⟨left.span.start, s.joined.span.stop⟩ operation left s.joined

/-- A set behind an operator, which is to combine what comes before it with what follows. -/
def operate (s : OpenSet) (operation : SetOperation) (start : Nat) : OpenSet :=
  { s with pending := some (s.content, operation), start := start, parts := [] }

end OpenSet

/-- The hyphens at the front of a set. -/
def hyphens (loose : Bool) (c : Cursor) : List SetForm × Cursor :=
  match _more : c.rest with
  | [] => ([], c)
  | d :: _ =>
    if d = '-' then
      let (others, behind) := hyphens loose (c.advance loose)
      (.literal ⟨c.nextSpan, '-', false⟩ :: others, behind)
    else ([], c)
termination_by c.rest.length
decreasing_by exact Cursor.length_advance_lt _more

/-- The set that an opening bracket begins. Hyphens right behind it stand for themselves, and so
does a closing bracket. -/
def openSet (loose : Bool) (c : Cursor) : Reading OpenSet :=
  let start := c.passed
  let first := c.advance loose
  let negated := first.rest.head? = some '^'
  let inner := if negated then first.advance loose else first
  let (signs, behind) := hyphens loose inner
  if inner.rest.isEmpty then .error ⟨.setUnclosed, inner.since start, none⟩
  else if behind.rest.isEmpty then .error ⟨.setUnclosed, ⟨start, start⟩, none⟩
  else if signs.isEmpty && behind.rest.head? = some ']' then
    let more := behind.advance loose
    if more.rest.isEmpty then .error ⟨.setUnclosed, more.since start, none⟩
    else
      let bracket := SetForm.literal ⟨behind.nextSpan, ']', false⟩
      .ok (⟨more.since start, negated, none, inner.passed, [bracket]⟩, more)
  else .ok (⟨behind.since start, negated, none, inner.passed, signs.reverse⟩, behind)

/-- The set with a name that an opening bracket begins, if it begins one. -/
def namedSet? (c : Cursor) : Option (SetForm × Cursor) := do
  let colon ← c.after? ['[', ':']
  let sign := colon.after? ['^']
  let (name, behind) := (sign.getD colon).takeWhile false (· ≠ ':')
  let last ← behind.after? [':', ']']
  let set ← NamedSet.names.lookup (String.ofList name)
  return (.named (last.since c.passed) set sign.isSome, last)

/-- A part of a pattern as a part of a set, where it makes sense as one. -/
def SetForm.ofForm : Form → Except Fault SetForm
  | .literal l => .ok (.literal l)
  | .property span name => .ok (.property span name)
  | .shorthand span kind negated => .ok (.shorthand span kind negated)
  | form => .error ⟨.escapeInSet, form.span, none⟩

/-- A part of a pattern as the end of a range. -/
def rangeEnd : Form → Except Fault Literal
  | .literal l => .ok l
  | form => .error ⟨.rangeBoundary, form.span, none⟩

/-- The range between two parts of a pattern. -/
def rangeBetween (first last : Form) : Except Fault SetForm :=
  match rangeEnd first, rangeEnd last with
  | .error fault, _ => .error fault
  | _, .error fault => .error fault
  | .ok l, .ok r =>
    let span : Span := ⟨l.span.start, r.span.stop⟩
    if l.char ≤ r.char then .ok (.range span l r) else .error ⟨.rangeBackwards, span, none⟩

/-- A part of a set that is no set itself: one character or several, or a range. A hyphen makes a
range unless the set ends behind it or it is one half of an operator. -/
def setPart (loose : Bool) (opening : Span) (c : Cursor) : Reading SetForm :=
  match character loose c with
  | .error fault => .error fault
  | .ok (first, behind) =>
    let behind := behind.settle loose
    let second := behind.second loose
    if behind.rest.isEmpty then .error ⟨.setUnclosed, opening, none⟩
    else if behind.rest.head? ≠ some '-' || second = some ']' || second = some '-' then
      match SetForm.ofForm first with
      | .error fault => .error fault
      | .ok part => .ok (part, behind)
    else
      let next := behind.advance loose
      if next.rest.isEmpty then .error ⟨.setUnclosed, opening, none⟩
      else
        match character loose next with
        | .error fault => .error fault
        | .ok (last, behind) =>
          match rangeBetween first last with
          | .error fault => .error fault
          | .ok part => .ok (part, behind)

/-- The rest of a set in some others. Each step passes a character at least, so `fuel` may be the
number of characters that are left, and one for the end. -/
def setFrom (loose : Bool) : Nat → OpenSet → List OpenSet → Cursor → Reading Form
  | 0, s, _, _ => .error ⟨.setUnclosed, s.opening, none⟩
  | fuel + 1, s, outer, place =>
    let c := place.settle loose
    match c.rest with
    | [] => .error ⟨.setUnclosed, s.opening, none⟩
    | '[' :: _ =>
      match namedSet? c with
      | some (part, behind) => setFrom loose fuel (s.push part) outer behind
      | none =>
        match openSet loose c with
        | .error fault => .error fault
        | .ok (inner, behind) => setFrom loose fuel inner (s :: outer) behind
    | ']' :: _ =>
      let span := c.step.since s.opening.start
      match outer with
      | [] => .ok (.set span s.negated s.content, c.step)
      | around :: outer =>
        setFrom loose fuel (around.push (.bracketed span s.negated s.content)) outer c.step
    | '&' :: '&' :: _ =>
      setFrom loose fuel (s.operate .both c.step.step.passed) outer c.step.step
    | '-' :: '-' :: _ =>
      setFrom loose fuel (s.operate .firstOnly c.step.step.passed) outer c.step.step
    | '~' :: '~' :: _ =>
      setFrom loose fuel (s.operate .oneOnly c.step.step.passed) outer c.step.step
    | _ =>
      match setPart loose s.opening c with
      | .error fault => .error fault
      | .ok (part, behind) => setFrom loose fuel (s.push part) outer behind

/-- A set; the place is at its opening bracket. -/
def set (loose : Bool) (c : Cursor) : Reading Form :=
  match openSet loose c with
  | .error fault => .error fault
  | .ok (s, behind) => setFrom loose (behind.rest.length + 1) s [] behind

end FaceAnnotator.Pattern
