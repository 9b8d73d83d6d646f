/-!
# FaceAnnotator.Text.Terminal

**What a text shows once nothing in it can steer a terminal.**

Control characters and the sequences that an escape character begins are taken out; tabs, line ends
and form feeds stay. A sequence is read by its shape alone: `Phase` says how far in it a reader is,
`Phase.next` where a character leads, and `Phase.shows` whether the character is part of the text.

A run of shown characters is read to its end as if no sequence were open, and a sequence that the
run has interrupted goes on after it. So `unsteered` keeps two things apart: the phase, and whether
the character before was shown.
-/

namespace FaceAnnotator.Text

/-- How far a reader is in a sequence that steers a terminal. -/
inductive Phase where
  /-- Outside of any sequence. -/
  | plain
  /-- Behind an escape character. -/
  | escape
  /-- Behind an escape character and some characters that only prepare for the last one. -/
  | escapePrepared
  /-- At the beginning of a control sequence. -/
  | control
  /-- Among the numbers of a control sequence. -/
  | controlNumbers
  /-- Behind the numbers of a control sequence. -/
  | controlPrepared
  /-- In a control sequence that nobody can understand any more. -/
  | controlSpoilt
  /-- At the beginning of a string for the device. -/
  | device
  /-- Among the numbers before a string for the device. -/
  | deviceNumbers
  /-- Behind the numbers before a string for the device. -/
  | devicePrepared
  /-- In a string that its end character ends. -/
  | string
  /-- In a string that a bell ends. -/
  | title
deriving DecidableEq, Repr

namespace Phase

/-- Whether a character only prepares for the one that says what is meant. -/
def isPreparation (n : Nat) : Bool := 0x20 ≤ n && n ≤ 0x2F

/-- Whether a character is part of the numbers at the front of a sequence. -/
def isNumber (n : Nat) : Bool := 0x30 ≤ n && n ≤ 0x3B

/-- Whether a character marks a sequence as private, which only its first character may do. -/
def isMark (n : Nat) : Bool := 0x3C ≤ n && n ≤ 0x3F

/-- Whether a character says what is meant, and so ends what came before it. -/
def isFinal (n : Nat) : Bool := 0x40 ≤ n && n ≤ 0x7E

/-- Where the character behind an escape character leads. -/
def afterEscape (n : Nat) : Phase :=
  if isPreparation n then escapePrepared
  else if n = 0x5B then control
  else if n = 0x5D then title
  else if n = 0x50 then device
  else if n = 0x58 || n = 0x5E || n = 0x5F then string
  else if 0x30 ≤ n && n ≤ 0x7E then plain
  else escape

/-- Where a character leads inside a sequence, if it is none of the three that break off
anything. -/
def within (n : Nat) : Phase → Phase
  | plain => plain
  | escape => afterEscape n
  | escapePrepared => if 0x30 ≤ n && n ≤ 0x7E then plain else escapePrepared
  | control =>
    if isPreparation n then controlPrepared else if isNumber n || isMark n then controlNumbers
    else if isFinal n then plain else control
  | controlNumbers =>
    if isPreparation n then controlPrepared else if isMark n then controlSpoilt
    else if isFinal n then plain else controlNumbers
  | controlPrepared =>
    if isNumber n || isMark n then controlSpoilt else if isFinal n then plain else controlPrepared
  | controlSpoilt => if isFinal n then plain else controlSpoilt
  | device =>
    if isPreparation n then devicePrepared else if isNumber n || isMark n then deviceNumbers
    else if isFinal n then string else device
  | deviceNumbers =>
    if isPreparation n then devicePrepared else if isMark n || isFinal n then string
    else deviceNumbers
  | devicePrepared =>
    if isNumber n || isMark n || isFinal n then string else devicePrepared
  | string => string
  | title => if n = 0x07 then plain else title

/-- Where an ASCII character leads. Two of them cancel a sequence, and an escape character begins
another one wherever it stands. -/
def next (phase : Phase) (c : Char) : Phase :=
  let n := c.toNat
  if n = 0x18 || n = 0x1A then plain else if n = 0x1B then escape else phase.within n

/-- Where a character beyond ASCII leads that is not shown. It changes nothing, but one that is
written with the byte that ends a string does end it. -/
def beyond (phase : Phase) (c : Char) : Phase :=
  if phase = string && (String.utf8EncodeChar c).contains 0x9C then plain else phase

/-- Whether control characters keep their effect in a phase. Strings swallow them. -/
def obeys : Phase → Bool
  | device => false
  | deviceNumbers => false
  | devicePrepared => false
  | string => false
  | title => false
  | _ => true

/-- Whether an ASCII character is part of the text. -/
def shows (phase : Phase) (c : Char) : Bool :=
  if c = '\t' || c = '\n' || c = '\x0c' || c = '\r' then phase.obeys
  else phase = plain && 0x20 ≤ c.toNat && c.toNat < 0x7F

end Phase

/-- What a text shows from some place on. `inRun` says that the character before was shown. -/
def unsteeredFrom (inRun : Bool) (phase : Phase) : List Char → List Char
  | [] => []
  | c :: text =>
    if 0x80 ≤ c.toNat then
      if inRun || phase = .plain then c :: unsteeredFrom true .plain text
      else unsteeredFrom false (phase.beyond c) text
    else if (inRun && Phase.plain.shows c) || (!inRun && phase.shows c) then
      c :: unsteeredFrom true (if inRun then phase else phase.next c) text
    else unsteeredFrom false (phase.next c) text

/-- A text without what steers a terminal. -/
def unsteered (text : List Char) : List Char := unsteeredFrom true .plain text

end FaceAnnotator.Text
