import FaceAnnotator.Pattern.Cursor
import FaceAnnotator.Pattern.Form
/-!
# FaceAnnotator.Pattern.Escape

**Reading the smallest parts of a pattern**: a character, a dot, an anchor, or what a backslash
begins.

Every reader here begins at the backslash or behind the letter that has told it what to read.
-/

namespace FaceAnnotator.Pattern

/-- Whether a character is a hexadecimal digit. -/
def isHexDigit (c : Char) : Bool :=
  c.isDigit || ('a' ≤ c && c ≤ 'f') || ('A' ≤ c && c ≤ 'F')

/-- The value of a hexadecimal digit. -/
def hexDigitValue (c : Char) : Nat :=
  if c.isDigit then c.toNat - 48 else if 'a' ≤ c then c.toNat - 87 else c.toNat - 55

/-- The number that hexadecimal digits write. -/
def hexValue (digits : List Char) : Nat := digits.foldl (fun n d => n * 16 + hexDigitValue d) 0

/-- The character that hexadecimal digits in some stretch write. -/
def hexCharacter (digits : List Char) (span : Span) : Except Fault Char :=
  let n := hexValue digits
  if n.isValidChar then .ok (Char.ofNat n) else .error ⟨.hexNoCharacter, span, none⟩

/-- So many hexadecimal digits. -/
def hexDigits (loose : Bool) : Nat → Cursor → Reading (List Char)
  | 0, c => .ok ([], c)
  | count + 1, c =>
    match c.rest with
    | [] => .error ⟨.escapeUnfinished, c.here, none⟩
    | d :: _ =>
      if isHexDigit d then
        match hexDigits loose count (c.advance loose) with
        | .error fault => .error fault
        | .ok (digits, behind) => .ok (d :: digits, behind)
      else .error ⟨.hexDigit, c.nextSpan, none⟩

/-- A character written by its number in braces; the place is at the opening one. -/
def hexInBraces (loose : Bool) (start : Nat) (c : Cursor) : Reading Form :=
  let (digits, behind) := (c.advance loose).takeWhile loose isHexDigit
  let last := behind.advance loose
  match behind.rest with
  | [] => .error ⟨.escapeUnfinished, behind.since c.passed, none⟩
  | d :: _ =>
    if d ≠ '\x7d' then .error ⟨.hexDigit, behind.nextSpan, none⟩
    else if digits.isEmpty then .error ⟨.hexEmpty, last.since c.passed, none⟩
    else
      match hexCharacter digits (behind.since (c.passed + 1)) with
      | .error fault => .error fault
      | .ok char => .ok (.literal ⟨last.since start, char, false⟩, last)

/-- A character written by its number in as many digits as the letter before them asks for. -/
def hexInDigits (loose : Bool) (start : Nat) (letter : Char) (c : Cursor) : Reading Form :=
  match hexDigits loose (if letter = 'x' then 2 else if letter = 'u' then 4 else 8) c with
  | .error fault => .error fault
  | .ok (digits, behind) =>
    match hexCharacter digits (behind.since c.passed) with
    | .error fault => .error fault
    | .ok char => .ok (.literal ⟨behind.since start, char, letter = 'x'⟩, behind)

/-- A character written by its number. -/
def hexEscape (loose : Bool) (start : Nat) (letter : Char) (c : Cursor) : Reading Form :=
  if c.rest.head? = some '\x7b' then hexInBraces loose start c else hexInDigits loose start letter c

/-- The characters with a property; the name of the property is one letter or stands in braces. -/
def propertyEscape (loose : Bool) (start : Nat) (c : Cursor) : Reading Form :=
  match c.rest with
  | [] => .error ⟨.escapeUnfinished, c.here, none⟩
  | '\x7b' :: _ =>
    let (name, behind) := (c.advance loose).takeWhile loose (· ≠ '\x7d')
    match behind.rest with
    | [] => .error ⟨.escapeUnfinished, behind.here, none⟩
    | _ :: _ => .ok (.property (behind.step.since start) name, behind.step)
  | d :: _ =>
    if d = '\\' then .error ⟨.propertyMissing, c.nextSpan, none⟩
    else .ok (.property ((c.advance loose).since start) [d], c.advance loose)

/-- Whether a character may stand in the name of a word boundary. -/
def isBoundaryLetter (c : Char) : Bool := c.isAlpha || c = '-'

/-- A word boundary. What is in braces behind it is its name if it begins like one, and otherwise
says how often the boundary is repeated. -/
def boundaryEscape (loose : Bool) (start : Nat) (c : Cursor) : Reading Form :=
  let bare : Form × Cursor := (.anchor (c.since start) .wordBoundary, c)
  match c.rest with
  | '\x7b' :: _ =>
    let name := c.advance loose
    match name.rest with
    | [] => .error ⟨.boundaryUnfinished, name.since start, none⟩
    | d :: _ =>
      if isBoundaryLetter d then
        let (letters, behind) := name.takeWhile loose isBoundaryLetter
        if behind.rest.head? = some '\x7d' then
          match Anchor.names.lookup (String.ofList letters) with
          | some anchor => .ok (.anchor (behind.step.since start) anchor, behind.step)
          | none => .error ⟨.boundaryUnknown, behind.since name.passed, none⟩
        else .error ⟨.boundaryUnclosed, behind.since c.passed, none⟩
      else .ok bare
  | _ => .ok bare

/-- The character that a letter behind a backslash stands for. -/
def controlOf? (letter : Char) : Option Char :=
  [('a', '\x07'), ('f', '\x0c'), ('t', '\t'), ('n', '\n'), ('r', '\r'), ('v', '\x0b')].lookup letter

/-- The anchor that a letter behind a backslash stands for. -/
def anchorOf? (letter : Char) : Option Anchor :=
  [('A', Anchor.textStart), ('z', .textEnd), ('B', .noWordBoundary), ('<', .wordStart),
    ('>', .wordEnd)].lookup letter

/-- The characters that a letter behind a backslash stands for, and whether they are those or all
others. -/
def shorthandOf? (letter : Char) : Option (Shorthand × Bool) :=
  [('d', (Shorthand.digit, false)), ('s', (.space, false)), ('w', (.word, false)),
    ('D', (.digit, true)), ('S', (.space, true)), ('W', (.word, true))].lookup letter

/-- Whether a character behind a backslash stands for itself. -/
def isEscapable (c : Char) : Bool :=
  c.toNat < 0x80 && !c.isAlphanum && c ≠ '<' && c ≠ '>'

/-- What a backslash begins. -/
def escape (loose : Bool) (c : Cursor) : Reading Form :=
  let start := c.passed
  let letter := c.step
  match letter.rest with
  | [] => .error ⟨.escapeUnfinished, letter.since start, none⟩
  | d :: _ =>
    let behind := letter.step
    let span := behind.since start
    if d.isDigit then .error ⟨.backReference, span, none⟩
    else if d = 'x' || d = 'u' || d = 'U' then hexEscape loose start d (letter.advance loose)
    else if d = 'p' || d = 'P' then propertyEscape loose start (letter.advance loose)
    else if d = 'b' then boundaryEscape loose start behind
    else if isEscapable d then .ok (.literal ⟨span, d, false⟩, behind)
    else
      match shorthandOf? d, controlOf? d, anchorOf? d with
      | some (kind, negated), _, _ => .ok (.shorthand span kind negated, behind)
      | _, some char, _ => .ok (.literal ⟨span, char, false⟩, behind)
      | _, _, some anchor => .ok (.anchor span anchor, behind)
      | none, none, none => .error ⟨.escapeUnknown, span, none⟩

/-- A character that stands for itself, or what a backslash begins. -/
def character (loose : Bool) (c : Cursor) : Reading Form :=
  match c.rest with
  | [] => .ok (.empty c.here, c)
  | d :: _ =>
    if d = '\\' then escape loose c else .ok (.literal ⟨c.nextSpan, d, false⟩, c.step)

/-- A smallest part of a pattern. -/
def primitive (loose : Bool) (c : Cursor) : Reading Form :=
  match c.rest with
  | '.' :: _ => .ok (.dot c.nextSpan, c.step)
  | '^' :: _ => .ok (.anchor c.nextSpan .lineStart, c.step)
  | '$' :: _ => .ok (.anchor c.nextSpan .lineEnd, c.step)
  | _ => character loose c

end FaceAnnotator.Pattern
