import FaceAnnotator.Pattern.SetReading
import FaceAnnotator.Text.Letter
/-!
# FaceAnnotator.Pattern.Reading

**Reading a pattern.**

A pattern is read from left to right in one loop. The groups that enclose what is being read are
kept in a list, innermost first, each with what it has interrupted. The first mistake ends the
reading, so a fault is always that of the first part that cannot be understood.
-/

namespace FaceAnnotator.Pattern

/-! ### Groups -/

/-- What an opening parenthesis can begin. -/
inductive Opening where
  /-- Flags that hold from there on. -/
  | switch (span : Span) (change : FlagChange)
  /-- A group, and its name if it has one. -/
  | group (span : Span) (kind : GroupKind) (name : Option (List Char × Span))

/-- Flags as they are written, the last one first; none of them is the sign that switches off. -/
abbrev FlagItems := List (Option Flag × Span)

/-- What some flags switch: those behind the sign are switched off. -/
def FlagItems.change (items : FlagItems) : FlagChange :=
  let flags := items.reverse.map Prod.fst
  (flags.takeWhile Option.isSome).reduceOption.map (·, true) ++
    (flags.dropWhile Option.isSome).reduceOption.map (·, false)

/-- Puts a flag, or the sign, behind others. -/
def FlagItems.add (items : FlagItems) (item : Option Flag) (span : Span) : Except Fault FlagItems :=
  match items.lookup item with
  | none => .ok ((item, span) :: items)
  | some earlier =>
    .error ⟨if item.isSome then .flagRepeated else .negationRepeated, span, some earlier⟩

/-- Flags up to a colon or a closing parenthesis. The place behind them is at that character. -/
def flagItems (items : FlagItems) (passed : Nat) : List Char → Reading FlagItems
  | [] => .error ⟨.flagsUnfinished, ⟨passed, passed⟩, none⟩
  | d :: rest =>
    if d = ':' || d = ')' then
      match items with
      | (none, span) :: _ => .error ⟨.negationDangling, span, none⟩
      | _ => .ok (items, ⟨d :: rest, passed⟩)
    else
      let span : Span := ⟨passed, passed + 1⟩
      let flag := Flag.ofLetter? d
      if flag.isNone && d ≠ '-' then .error ⟨.flagUnknown, span, none⟩
      else
        match FlagItems.add items flag span with
        | .error fault => .error fault
        | .ok items => flagItems items (passed + 1) rest

/-- Whether a character may stand in the name of a group. -/
def isNameCharacter (c : Char) : Bool :=
  Text.isLetterOrNumber c || c = '_' || c = '.' || c = '[' || c = ']'

/-- Whether the name of a group may begin with a character. -/
def isNameStart (c : Char) : Bool := Text.isLetter c || c = '_'

/-- The name of a group, up to the sign that closes it. No name is used twice. -/
def groupName (used : List (List Char × Span)) (c : Cursor) : Reading (List Char × Span) :=
  match c.rest with
  | [] => .error ⟨.nameUnfinished, c.here, none⟩
  | first :: _ =>
    let (name, behind) := c.takeWhile false isNameCharacter
    let span := behind.since c.passed
    if first = '>' then .error ⟨.nameEmpty, c.here, none⟩
    else if !isNameStart first then .error ⟨.nameCharacter, c.nextSpan, none⟩
    else
      match behind.rest with
      | [] => .error ⟨.nameUnfinished, behind.here, none⟩
      | d :: _ =>
        if d ≠ '>' then .error ⟨.nameCharacter, behind.nextSpan, none⟩
        else
          match used.lookup name with
          | some earlier => .error ⟨.nameRepeated, span, some earlier⟩
          | none => .ok ((name, span), behind.step)

/-- What begins a group that nothing can be asked of. -/
def lookAroundSigns : List (List Char) :=
  [['?', '='], ['?', '!'], ['?', '<', '='], ['?', '<', '!']]

/-- What follows the question mark behind an opening parenthesis: flags for the rest of the group
around it, or a group with flags of its own. `inner` is the place of the question mark. -/
def switchOpening (span : Span) (inner c : Cursor) : Reading Opening :=
  if c.rest.isEmpty then .error ⟨.groupUnclosed, span, none⟩
  else
    match flagItems [] c.passed c.rest with
    | .error fault => .error fault
    | .ok (items, last) =>
      let behind := last.step
      if last.rest.head? = some ':' then
        .ok (.group span (.switching (FlagItems.change items)) none, behind)
      else if items.isEmpty then .error ⟨.repetitionMissing, inner.here, none⟩
      else .ok (.switch (behind.since span.start) (FlagItems.change items), behind)

/-- What an opening parenthesis begins. -/
def opening (loose : Bool) (used : List (List Char × Span)) (c : Cursor) : Reading Opening :=
  let span := c.nextSpan
  let inner := c.advance loose
  match lookAroundSigns.findSome? inner.after? with
  | some behind => .error ⟨.lookAround, behind.since span.start, none⟩
  | none =>
    match (inner.after? ['?', 'P', '<']).or (inner.after? ['?', '<']) with
    | some c =>
      match groupName used c with
      | .error fault => .error fault
      | .ok (name, behind) => .ok (.group span .remembered (some name), behind)
    | none =>
      match inner.after? ['?'] with
      | some c => switchOpening span inner c
      | none => .ok (.group span .remembered none, inner)

/-! ### Repetitions -/

/-- The greatest number that can be counted to. -/
def greatestCount : Nat := 4294967295

/-- The number that decimal digits in some stretch write. -/
def countOf (digits : List Char) (span : Span) : Except Fault Nat :=
  let n := digits.foldl (fun n d => n * 10 + (d.toNat - 48)) 0
  if digits.isEmpty then .error ⟨.countMissing, span, none⟩
  else if n ≤ greatestCount then .ok n
  else .error ⟨.countTooGreat, span, none⟩

/-- A number among blanks, or why there is none, and the place behind the blanks. -/
def count (loose : Bool) (c : Cursor) : Except Fault Nat × Cursor :=
  let (_, start) := c.takeWhile false Text.isBlank
  let (digits, behind) := start.takeWhile loose Char.isDigit
  (countOf digits (behind.since start.passed), (behind.takeWhile loose Text.isBlank).2)

/-- How often something is repeated. The place behind the numbers should be at a closing brace. -/
def counts (loose : Bool) (c : Cursor) : Reading (Nat × Option Nat) :=
  let inner := c.advance loose
  let (least, behind) := count loose inner
  let after := behind.advance loose
  if inner.rest.isEmpty then .error ⟨.countUnclosed, inner.since c.passed, none⟩
  else
    match behind.rest with
    | [] => .error ⟨.countUnclosed, behind.since c.passed, none⟩
    | ',' :: _ =>
      match after.rest with
      | [] => .error ⟨.countUnclosed, after.since c.passed, none⟩
      | '\x7d' :: _ => least.map fun n => ((n, none), after)
      | _ =>
        match least, count loose after with
        | .error fault, _ => .error fault
        | .ok _, (.error fault, _) => .error fault
        | .ok n, (.ok m, last) => .ok ((n, some m), last)
    | _ => least.map fun n => ((n, some n), behind)

/-- The place behind a question mark, if there is one. It says which of several matches is meant, so
it makes no difference to whether there is one. -/
def pastQuestion (c : Cursor) : Cursor := if c.rest.head? = some '?' then c.step else c

/-- A repetition with numbers, of something that begins at `start`. -/
def countedRepetition (loose : Bool) (body : Form) (c : Cursor) : Reading Form :=
  match counts loose c with
  | .error fault => .error fault
  | .ok ((least, most), last) =>
    if last.rest.head? ≠ some '\x7d' then .error ⟨.countUnclosed, last.since c.passed, none⟩
    else
      let behind := pastQuestion (last.advance loose)
      if most.any (· < least) then .error ⟨.countBackwards, behind.since c.passed, none⟩
      else .ok (.repeated (behind.since body.span.start) least most body, behind)

/-- A repetition without numbers. -/
def simpleRepetition (least : Nat) (most : Option Nat) (body : Form) (c : Cursor) : Form × Cursor :=
  let behind := pastQuestion c.step
  (.repeated (behind.since body.span.start) least most body, behind)

/-- The repetition that a sign writes. -/
def repetition (loose : Bool) (sign : Char) (body : Form) (c : Cursor) : Reading Form :=
  if sign = '?' then .ok (simpleRepetition 0 (some 1) body c)
  else if sign = '*' then .ok (simpleRepetition 0 none body c)
  else if sign = '+' then .ok (simpleRepetition 1 none body c)
  else countedRepetition loose body c

/-- Whether a character is a sign that repeats what is before it. -/
def isRepetitionSign (c : Char) : Bool := c = '?' || c = '*' || c = '+' || c = '\x7b'

/-- Whether a part is something that can be repeated. -/
def isRepeatable : Form → Bool
  | .empty _ => false
  | .flags .. => false
  | _ => true

/-! ### The whole pattern -/

/-- What stands between the ends of a group, or of the pattern, as far as it is read. -/
structure Level where
  /-- Where the first branch begins. -/
  start : Nat
  /-- The branches that are complete, the last one first. -/
  branches : List Form := []
  /-- Where the branch begins that is being read. -/
  branchStart : Nat := start
  /-- Its parts, the last one first. -/
  parts : List Form := []

namespace Level

/-- A level with one more part. -/
def push (l : Level) (part : Form) : Level := { l with parts := part :: l.parts }

/-- The branch that is being read, if it ends at some place. -/
def branch (l : Level) (stop : Nat) : Form :=
  match l.parts with
  | [] => .empty ⟨l.branchStart, stop⟩
  | [part] => part
  | parts => .sequence ⟨l.branchStart, stop⟩ parts.reverse

/-- All that has been read of a level, if it ends at some place. -/
def content (l : Level) (stop : Nat) : Form :=
  if l.branches.isEmpty then l.branch stop
  else .choice ⟨l.start, stop⟩ (l.branch stop :: l.branches).reverse

/-- A level behind a bar, which stands at some place. -/
def nextBranch (l : Level) (bar : Nat) : Level :=
  { l with branches := l.branch bar :: l.branches, branchStart := bar + 1, parts := [] }

end Level

/-- A group that is being read, and what it has interrupted. -/
structure OpenGroup where
  /-- The stretch of what opens it. -/
  opening : Span
  kind : GroupKind
  /-- What is read of the level around it. -/
  outside : Level
  /-- Whether the pattern is loose around it. -/
  looseOutside : Bool

/-- What is known where a part of a pattern begins. -/
structure Progress where
  level : Level
  enclosing : List OpenGroup := []
  loose : Bool := false
  /-- The names of groups so far. -/
  names : List (List Char × Span) := []

namespace Progress

/-- What is known behind one more part. -/
def push (p : Progress) (part : Form) : Progress := { p with level := p.level.push part }

/-- What is known behind an opening parenthesis and what belongs to it. -/
def opened (p : Progress) (stop : Nat) : Opening → Progress
  | .switch span change =>
    { p.push (.flags span change) with loose := change.apply .loose p.loose }
  | .group span kind name =>
    let loose :=
      match kind with
      | .remembered => p.loose
      | .switching change => change.apply .loose p.loose
    let group : OpenGroup := ⟨span, kind, p.level, p.loose⟩
    ⟨{ start := stop }, group :: p.enclosing, loose, name.toList ++ p.names⟩

/-- What is known behind a closing parenthesis, which stands at some place. -/
def closed (p : Progress) (place : Nat) : Except Fault Progress :=
  match p.enclosing with
  | [] => .error ⟨.groupUnopened, ⟨place, place + 1⟩, none⟩
  | group :: enclosing =>
    let form := .group ⟨group.opening.start, place + 1⟩ group.kind (p.level.content place)
    .ok ⟨group.outside.push form, enclosing, group.looseOutside, p.names⟩

/-- What is known behind a sign that repeats the part before it. -/
def repeated (p : Progress) (sign : Char) (c : Cursor) : Reading Progress :=
  match p.level.parts with
  | [] => .error ⟨.repetitionMissing, c.here, none⟩
  | body :: others =>
    if isRepeatable body then
      match repetition p.loose sign body c with
      | .error fault => .error fault
      | .ok (form, behind) =>
        .ok ({ p with level := { p.level with parts := form :: others } }, behind)
    else .error ⟨.repetitionMissing, c.here, none⟩

/-- One step through a pattern; the next character is `d`. -/
def next (p : Progress) (d : Char) (c : Cursor) : Reading Progress :=
  if d = '(' then
    match opening p.loose p.names c with
    | .error fault => .error fault
    | .ok (begun, behind) => .ok (p.opened behind.passed begun, behind)
  else if d = ')' then (p.closed c.passed).map (·, c.step)
  else if d = '|' then .ok ({ p with level := p.level.nextBranch c.passed }, c.step)
  else if isRepetitionSign d then p.repeated d c
  else
    match if d = '[' then set p.loose c else primitive p.loose c with
    | .error fault => .error fault
    | .ok (part, behind) => .ok (p.push part, behind)

/-- What is read in the end. -/
def finish (p : Progress) (stop : Nat) : Except Fault Form :=
  match p.enclosing with
  | [] => .ok (p.level.content stop)
  | group :: _ => .error ⟨.groupUnclosed, group.opening, none⟩

/-- Reads a pattern to its end. Each step passes a character at least, so `fuel` may be the number
of characters that are left. -/
def toEnd : Nat → Progress → Cursor → Except Fault Form
  | 0, p, c => p.finish c.passed
  | fuel + 1, p, place =>
    let c := place.settle p.loose
    match c.rest with
    | [] => p.finish c.passed
    | d :: _ =>
      match p.next d c with
      | .error fault => .error fault
      | .ok (p, behind) => toEnd fuel p behind

end Progress

/-- The form of a pattern. -/
def Form.read (text : List Char) : Except Fault Form :=
  match Progress.toEnd text.length { level := { start := 0 } } ⟨text, 0⟩ with
  | .error fault => .error fault
  | .ok form =>
    match form.checkDepth depthLimit with
    | .error fault => .error fault
    | .ok _ => .ok form

end FaceAnnotator.Pattern
