import FaceAnnotator.Text.Lines
/-!
# FaceAnnotator.Pattern.Fault

**What is wrong with a pattern, and where.**

A `Fault` is a `Mistake` with the stretch of the pattern that it is about. It is told by showing the
pattern with a row of carets under that stretch. A pattern of several lines is shown between two
rulers with its lines numbered; a stretch that goes over more than one of them is only named.
-/

namespace FaceAnnotator.Pattern

/-- A stretch of the text of a pattern: how many characters are before its two ends. -/
structure Span where
  start : Nat
  stop : Nat
deriving DecidableEq, Repr

/-- How deep the parts of a pattern may be nested. -/
def depthLimit : Nat := 250

/-- What can be wrong with a pattern. -/
inductive Mistake where
  /-- An escape sequence that is no character stands in a set. -/
  | escapeInSet
  /-- A range of a set ends before it begins. -/
  | rangeBackwards
  /-- A range of a set has an end that is no character. -/
  | rangeBoundary
  /-- A set has no end. -/
  | setUnclosed
  /-- A count is beyond any counting. -/
  | countTooGreat
  /-- A character is written without any digits. -/
  | hexEmpty
  /-- A character is written with a number that no character has. -/
  | hexNoCharacter
  /-- A character is written with something that is no digit. -/
  | hexDigit
  /-- The pattern ends within an escape sequence. -/
  | escapeUnfinished
  /-- There is no such escape sequence. -/
  | escapeUnknown
  /-- A flag is to be switched off, but which? -/
  | negationDangling
  /-- A flag is written twice. -/
  | flagRepeated
  /-- Flags are switched off twice. -/
  | negationRepeated
  /-- The pattern ends among flags. -/
  | flagsUnfinished
  /-- There is no such flag. -/
  | flagUnknown
  /-- Two groups have one name. -/
  | nameRepeated
  /-- A group has an empty name. -/
  | nameEmpty
  /-- The name of a group has a character that none may have. -/
  | nameCharacter
  /-- The pattern ends within the name of a group. -/
  | nameUnfinished
  /-- A group has no end. -/
  | groupUnclosed
  /-- A group ends that has not begun. -/
  | groupUnopened
  /-- The parts are nested too deep. -/
  | tooDeep
  /-- The greatest count is below the least one. -/
  | countBackwards
  /-- A count is missing. -/
  | countMissing
  /-- Counts have no end. -/
  | countUnclosed
  /-- There is nothing to repeat. -/
  | repetitionMissing
  /-- The name of a word boundary has no end or is no name. -/
  | boundaryUnclosed
  /-- There is no such word boundary. -/
  | boundaryUnknown
  /-- The pattern ends where a word boundary is to be named or counted. -/
  | boundaryUnfinished
  /-- A property has no name. -/
  | propertyMissing
  /-- The text of a group is not remembered for matching. -/
  | backReference
  /-- Nothing can be asked of what is around a match. -/
  | lookAround
  /-- Something that is about all characters is asked of a pattern that is about bytes. -/
  | charactersNotAllowed
  /-- The pattern fits bytes that are no characters. -/
  | bytesNotAllowed
  /-- There is no such property. -/
  | propertyUnknown
  /-- There is no such value of a property. -/
  | propertyValueUnknown
  /-- There is no table of the digits, blanks and word characters of all scripts. -/
  | shorthandUnknown
  /-- There is no table of the capital and small letters of all scripts. -/
  | caseUnknown
deriving DecidableEq, Repr

/-- What is said about a mistake. -/
def Mistake.message : Mistake → String
  | escapeInSet => "invalid escape sequence found in character class"
  | rangeBackwards => "invalid character class range, the start must be <= the end"
  | rangeBoundary => "invalid range boundary, must be a literal"
  | setUnclosed => "unclosed character class"
  | countTooGreat => "decimal literal invalid"
  | hexEmpty => "hexadecimal literal empty"
  | hexNoCharacter => "hexadecimal literal is not a Unicode scalar value"
  | hexDigit => "invalid hexadecimal digit"
  | escapeUnfinished => "incomplete escape sequence, reached end of pattern prematurely"
  | escapeUnknown => "unrecognized escape sequence"
  | negationDangling => "dangling flag negation operator"
  | flagRepeated => "duplicate flag"
  | negationRepeated => "flag negation operator repeated"
  | flagsUnfinished => "expected flag but got end of regex"
  | flagUnknown => "unrecognized flag"
  | nameRepeated => "duplicate capture group name"
  | nameEmpty => "empty capture group name"
  | nameCharacter => "invalid capture group character"
  | nameUnfinished => "unclosed capture group name"
  | groupUnclosed => "unclosed group"
  | groupUnopened => "unopened group"
  | tooDeep => s!"exceed the maximum number of nested parentheses/brackets ({depthLimit})"
  | countBackwards => "invalid repetition count range, the start must be <= the end"
  | countMissing => "repetition quantifier expects a valid decimal"
  | countUnclosed => "unclosed counted repetition"
  | repetitionMissing => "repetition operator missing expression"
  | boundaryUnclosed =>
    "special word boundary assertion is either unclosed or contains an invalid character"
  | boundaryUnknown =>
    "unrecognized special word boundary assertion, " ++
      "valid choices are: start, end, start-half or end-half"
  | boundaryUnfinished =>
    "found either the beginning of a special word boundary or a bounded repetition " ++
      "on a \\b with an opening brace, but no closing brace"
  | propertyMissing => "invalid Unicode character class"
  | backReference => "backreferences are not supported"
  | lookAround => "look-around, including look-ahead and look-behind, is not supported"
  | charactersNotAllowed => "Unicode not allowed here"
  | bytesNotAllowed => "pattern can match invalid UTF-8"
  | propertyUnknown => "Unicode property not found"
  | propertyValueUnknown => "Unicode property value not found"
  | shorthandUnknown =>
    "Unicode-aware Perl class not found (make sure the unicode-perl feature is enabled)"
  | caseUnknown =>
    "Unicode-aware case insensitivity matching is not available " ++
      "(make sure the unicode-case feature is enabled)"

/-- A mistake and where it is. -/
structure Fault where
  /-- What is wrong. -/
  mistake : Mistake
  /-- Where it is. -/
  span : Span
  /-- What it contradicts, if it is only wrong because of something before it. -/
  earlier : Option Span := none
deriving DecidableEq, Repr

/-! ### Telling a fault -/

/-- A place in a text, both numbers counted from 0. -/
structure Place where
  line : Nat
  column : Nat
deriving DecidableEq, Repr

/-- The place behind some characters. -/
def Place.after (place : Place) : List Char → Place
  | [] => place
  | c :: text =>
    Place.after (if c = '\n' then ⟨place.line + 1, 0⟩ else ⟨place.line, place.column + 1⟩) text

/-- The places of the two ends of a stretch. -/
def Span.places (pattern : List Char) (span : Span) : Place × Place :=
  (Place.after ⟨0, 0⟩ (pattern.take span.start), Place.after ⟨0, 0⟩ (pattern.take span.stop))

namespace Fault

/-- The stretches that a fault is about, in order. -/
def spans (f : Fault) : List Span :=
  match f.earlier with
  | none => [f.span]
  | some s =>
    if s.start < f.span.start || (s.start = f.span.start && s.stop ≤ f.span.stop) then [s, f.span]
    else [f.span, s]

/-- Carets under some stretches of a line, `column` characters being behind already. There is a
caret even for an empty stretch. -/
def carets (column : Nat) : List (Place × Place) → List Char
  | [] => []
  | (start, stop) :: rest =>
    let width := max 1 (stop.column - start.column)
    List.replicate (start.column - column) ' ' ++ List.replicate width '^' ++
      carets (max column start.column + width) rest

/-- A number moved to the right until it is as wide as asked. -/
def padded (width n : Nat) : List Char :=
  let digits := Nat.toDigits 10 n
  List.replicate (width - digits.length) ' ' ++ digits

/-- The lines of a pattern from number `n` on, each with what is before it and the carets under it.
Without a width for their numbers the lines are only moved to the right. -/
def notedFrom (width : Option Nat) (stretches : List (Place × Place)) (n : Nat) :
    List (List Char) → List Char
  | [] => []
  | line :: lines =>
    let before :=
      match width with
      | none => List.replicate 4 ' '
      | some w => padded w (n + 1) ++ [':', ' ']
    let here := stretches.filter fun (start, stop) => start.line = n && stop.line = n
    let notes :=
      if here.isEmpty then [] else List.replicate before.length ' ' ++ carets 0 here ++ ['\n']
    before ++ line ++ ['\n'] ++ notes ++ notedFrom width stretches (n + 1) lines

/-- Where a stretch is that goes over several lines, both numbers counted from 1. -/
def longNote (stretch : Place × Place) : List Char :=
  let (start, stop) := stretch
  (s!"on line {start.line + 1} (column {start.column + 1}) " ++
    s!"through line {stop.line + 1} (column {stop.column})\n").toList

/-- The ruler above and below a pattern of several lines. -/
def ruler : List Char := List.replicate 79 '~' ++ ['\n']

/-- The width that the numbers of all lines have room in. A line of no characters at the end
counts. -/
def numberWidth (pattern : List Char) : Option Nat :=
  let count := (Text.lines pattern).length + if pattern.getLast? = some '\n' then 1 else 0
  if count ≤ 1 then none else some (Nat.toDigits 10 count).length

/-- The pattern with carets under what a fault is about. -/
def noted (pattern : List Char) (f : Fault) : List Char :=
  let stretches := f.spans.map (Span.places pattern)
  let lines := notedFrom (numberWidth pattern) stretches 0 (Text.lines pattern)
  if pattern.contains '\n' then
    let long := stretches.filter fun (start, stop) => start.line ≠ stop.line
    ruler ++ lines ++ ruler ++ long.flatMap longNote
  else lines

/-- What is said about a fault of a pattern. -/
def text (pattern : List Char) (f : Fault) : String :=
  "regex parse error:\n" ++ String.ofList (f.noted pattern) ++ "error: " ++ f.mistake.message

end Fault

end FaceAnnotator.Pattern
