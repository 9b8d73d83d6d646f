import FaceAnnotator.Pattern.Basic
import FaceAnnotator.Pattern.Form
/-!
# FaceAnnotator.Pattern.Meaning

**From what is written to what is meant.**

The meaning of a part depends on the flags that hold where it stands, and a part can change them for
those behind it, up to the end of the group. There are no tables of the characters of all scripts
here: whatever needs one is a mistake, unless the pattern is about bytes there. About bytes a
pattern must not ask for any beyond ASCII, for those are no characters.
-/

namespace FaceAnnotator.Pattern

/-- The flags that make a difference to what a pattern means. -/
structure Flags where
  anyCase : Bool := false
  manyLines : Bool := false
  dotIsAll : Bool := false
  characters : Bool := true
  longLineEnds : Bool := false
deriving DecidableEq, Repr

/-- The flags behind a change of some of them. -/
def Flags.after (f : Flags) (change : FlagChange) : Flags where
  anyCase := change.apply .anyCase f.anyCase
  manyLines := change.apply .manyLines f.manyLines
  dotIsAll := change.apply .dotIsAll f.dotIsAll
  characters := change.apply .characters f.characters
  longLineEnds := change.apply .longLineEnds f.longLineEnds

/-- The characters of a set with a name. -/
def NamedSet.set : NamedSet → CharSet
  | alnum => .ofRanges [('0', '9'), ('A', 'Z'), ('a', 'z')]
  | alpha => .ofRanges [('A', 'Z'), ('a', 'z')]
  | ascii => .ofRange '\x00' '\x7f'
  | blank => .ofRanges [('\t', '\t'), (' ', ' ')]
  | cntrl => .ofRanges [('\x00', '\x1f'), ('\x7f', '\x7f')]
  | digit => .ofRange '0' '9'
  | graph => .ofRange '!' '~'
  | lower => .ofRange 'a' 'z'
  | print => .ofRange ' ' '~'
  | punct => .ofRanges [('!', '/'), (':', '@'), ('[', '\x60'), ('\x7b', '~')]
  | space => .ofRanges [('\t', '\r'), (' ', ' ')]
  | upper => .ofRange 'A' 'Z'
  | word => .ofRanges [('0', '9'), ('A', 'Z'), ('_', '_'), ('a', 'z')]
  | xdigit => .ofRanges [('0', '9'), ('A', 'F'), ('a', 'f')]

/-- The ASCII characters that a letter behind a backslash stands for. -/
def Shorthand.set : Shorthand → CharSet
  | digit => NamedSet.digit.set
  | space => NamedSet.space.set
  | word => NamedSet.word.set

/-- The name of a property as it is compared: small letters without blanks and signs between them,
and without the word *is* before them. -/
def propertyName (name : List Char) : List Char :=
  let bare := if (name.take 2).map Char.toLower = ['i', 's'] then name.drop 2 else name
  (bare.filter fun c => c.toNat < 0x80 && c ≠ ' ' && c ≠ '_' && c ≠ '-').map Char.toLower

/-- The names that write a value of the property `General_Category` and not a property. -/
def categoryNames : List (List Char) := [['c', 'f'], ['s', 'c'], ['l', 'c']]

/-- Why there are no characters with a property of some name. -/
def propertyFault (f : Flags) (span : Span) (name : List Char) : Fault :=
  if !f.characters then ⟨.charactersNotAllowed, span, none⟩
  else if categoryNames.contains (propertyName name) then ⟨.propertyValueUnknown, span, none⟩
  else ⟨.propertyUnknown, span, none⟩

/-- The characters that a letter behind a backslash stands for. -/
def shorthandSet (f : Flags) (span : Span) (kind : Shorthand) (negated : Bool) :
    Except Fault CharSet :=
  if f.characters then .error ⟨.shorthandUnknown, span, none⟩
  else if negated then .error ⟨.bytesNotAllowed, span, none⟩
  else .ok kind.set

/-- A set with both forms of its letters, if capital and small letters are the same. -/
def folded (f : Flags) (span : Span) (set : CharSet) : Except Fault CharSet :=
  if !f.anyCase || set.isEmpty then .ok set
  else if f.characters then .error ⟨.caseUnknown, span, none⟩
  else .ok set.withBothCases

/-- A set as brackets around it make it. -/
def enclosed (f : Flags) (span : Span) (negated : Bool) (set : CharSet) : Except Fault CharSet :=
  match folded f span set with
  | .error fault => .error fault
  | .ok set =>
    let set := if negated then set.complement else set
    if !f.characters && !set.isAscii then .error ⟨.bytesNotAllowed, span, none⟩ else .ok set

/-- What two sets are together. -/
def SetOperation.apply : SetOperation → CharSet → CharSet → CharSet
  | both, s, t => s.inter t
  | firstOnly, s, t => s.diff t
  | oneOnly, s, t => s.symmDiff t

namespace Literal

/-- The character of a literal. One that writes a byte beyond ASCII has none. -/
def character (f : Flags) (l : Literal) : Except Fault Char :=
  if !f.characters && l.isByte && 0x80 ≤ l.char.toNat then .error ⟨.bytesNotAllowed, l.span, none⟩
  else .ok l.char

/-- The character of a literal in a set. In a set of bytes there is none beyond ASCII. -/
def member (f : Flags) (l : Literal) : Except Fault Char :=
  match l.character f with
  | .error fault => .error fault
  | .ok c =>
    if !f.characters && 0x80 ≤ c.toNat then .error ⟨.charactersNotAllowed, l.span, none⟩ else .ok c

end Literal

mutual

/-- The characters of a set, as far as they are written in one of its parts. -/
def SetForm.meaning (f : Flags) : SetForm → Except Fault CharSet
  | .empty _ => .ok .empty
  | .literal l => (l.member f).map CharSet.ofChar
  | .range _ first last =>
    match first.member f, last.member f with
    | .error fault, _ => .error fault
    | _, .error fault => .error fault
    | .ok c, .ok d => .ok (.ofRange c d)
  | .named span name negated => enclosed f span negated name.set
  | .property span name => .error (propertyFault f span name)
  | .shorthand span kind negated => shorthandSet f span kind negated
  | .bracketed span negated content =>
    match content.meaning f with
    | .error fault => .error fault
    | .ok set => enclosed f span negated set
  | .union _ parts => SetForm.meanings f parts
  | .combined _ operation left right =>
    match left.meaning f, right.meaning f with
    | .error fault, _ => .error fault
    | _, .error fault => .error fault
    | .ok s, .ok t =>
      match folded f right.span t, folded f left.span s with
      | .error fault, _ => .error fault
      | _, .error fault => .error fault
      | .ok t, .ok s => .ok (operation.apply s t)

/-- The characters of several parts of a set. -/
def SetForm.meanings (f : Flags) : List SetForm → Except Fault CharSet
  | [] => .ok .empty
  | part :: parts =>
    match part.meaning f, SetForm.meanings f parts with
    | .error fault, _ => .error fault
    | _, .error fault => .error fault
    | .ok set, .ok others => .ok (set.union others)

end

/-- What an anchor asks of a place. -/
def Anchor.meaning (f : Flags) : Anchor → Assertion
  | lineStart => if f.manyLines then .lineStart f.longLineEnds else .textStart
  | lineEnd => if f.manyLines then .lineEnd f.longLineEnds else .textEnd
  | textStart => .textStart
  | textEnd => .textEnd
  | wordBoundary => .word .boundary !f.characters
  | noWordBoundary => .word .noBoundary !f.characters
  | wordStart => .word .start !f.characters
  | wordEnd => .word .stop !f.characters
  | wordStartHalf => .word .startHalf !f.characters
  | wordEndHalf => .word .stopHalf !f.characters

/-- The characters that a dot stands for. -/
def dotSet (f : Flags) (span : Span) : Except Fault CharSet :=
  if !f.characters then .error ⟨.bytesNotAllowed, span, none⟩
  else
    let ends : CharSet :=
      if f.dotIsAll then .empty
      else if f.longLineEnds then .ofRanges [('\n', '\n'), ('\r', '\r')]
      else .ofChar '\n'
    .ok ends.complement

/-- What a character outside of any set asks for. -/
def literalSet (f : Flags) (l : Literal) : Except Fault CharSet :=
  match l.character f with
  | .error fault => .error fault
  | .ok c => folded f l.span (.ofChar c)

mutual

/-- What a part of a pattern means, and the flags behind it. -/
def Form.meaning (f : Flags) : Form → Except Fault (Pattern × Flags)
  | .empty _ => .ok (nothing, f)
  | .flags _ change => .ok (nothing, f.after change)
  | .literal l => (literalSet f l).map fun chars => (oneOf chars, f)
  | .dot span => (dotSet f span).map fun chars => (oneOf chars, f)
  | .anchor _ a => .ok (holding (a.meaning f), f)
  | .property span name => .error (propertyFault f span name)
  | .shorthand span kind negated =>
    (shorthandSet f span kind negated).map fun chars => (oneOf chars, f)
  | .set span negated content =>
    match content.meaning f with
    | .error fault => .error fault
    | .ok chars => (enclosed f span negated chars).map fun chars => (oneOf chars, f)
  | .repeated _ least most body =>
    match body.meaning f with
    | .error fault => .error fault
    | .ok (p, _) => .ok (p.times least most, f)
  | .group _ .remembered body =>
    match body.meaning f with
    | .error fault => .error fault
    | .ok (p, _) => .ok (remembered p, f)
  | .group _ (.switching change) body =>
    match body.meaning (f.after change) with
    | .error fault => .error fault
    | .ok (p, _) => .ok (p, f)
  | .sequence _ parts =>
    match Form.meanings f parts with
    | .error fault => .error fault
    | .ok (patterns, f) => .ok (inOrder patterns, f)
  | .choice _ branches =>
    match Form.meanings f branches with
    | .error fault => .error fault
    | .ok (patterns, f) => .ok (oneOfThese patterns, f)

/-- What several parts of a pattern mean, and the flags behind the last of them. -/
def Form.meanings (f : Flags) : List Form → Except Fault (List Pattern × Flags)
  | [] => .ok ([], f)
  | part :: parts =>
    match part.meaning f with
    | .error fault => .error fault
    | .ok (p, f) =>
      match Form.meanings f parts with
      | .error fault => .error fault
      | .ok (patterns, f) => .ok (p :: patterns, f)

end

end FaceAnnotator.Pattern
