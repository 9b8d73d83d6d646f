import FaceAnnotator.Numeric.Notation
import FaceAnnotator.Text.Quoted
/-!
# FaceAnnotator.Json.Fault

**What can be wrong with a document, and where.**

A `Cause` says what is wrong. A reader that meets one stops with a `Fault`: the cause and what was
left of the document at that point. Where the point is, counted in lines and bytes, is worked out
from what was left only when the fault leaves the document (`Fault.locate`). So readers do not carry
a position, and what they do on good documents can be said without one.
-/

namespace FaceAnnotator.Json

open Numeric

/-- What was found where something else was expected. -/
inductive Found where
  | null
  | boolean (value : Bool)
  | integer (value : Int)
  | real (value : Double)
  | text (value : List Char)
  | sequence
  | map
deriving DecidableEq

/-- How a complaint calls what was found. -/
def Found.description : Found → String
  | null => "null"
  | boolean value => s!"boolean `{value}`"
  | integer value => s!"integer `" ++ String.ofList (integerText value) ++ "`"
  | real value => s!"floating point `" ++ String.ofList (value.text .quoted) ++ "`"
  | text value => "string " ++ String.ofList (Text.quoted value)
  | sequence => "sequence"
  | map => "map"

/-- What is wrong with a document. -/
inductive Cause where
  /-- The document ends inside a list. -/
  | endInList
  /-- The document ends inside an object. -/
  | endInObject
  /-- The document ends inside a string. -/
  | endInText
  /-- The document ends where a value was expected. -/
  | endInValue
  /-- No colon follows the key of a member. -/
  | colonExpected
  /-- Neither a comma nor the end of the list follows an element. -/
  | listEndExpected
  /-- Neither a comma nor the end of the object follows a member. -/
  | objectEndExpected
  /-- A word begins like `null`, `true` or `false` and goes on otherwise. -/
  | wordExpected
  /-- Something begins no value. -/
  | valueExpected
  /-- A backslash is followed by what makes no escape. -/
  | badEscape
  /-- A number breaks the grammar of numbers. -/
  | badNumber
  /-- A number is too great for the wide format. -/
  | numberOutOfRange
  /-- A control character stands unescaped in a string. -/
  | controlCharacter
  /-- A member begins with something else than a string. -/
  | keyExpected
  /-- A surrogate stands without its partner. -/
  | loneSurrogate
  /-- A first surrogate is not followed by another escape. -/
  | brokenSurrogate
  /-- A comma is followed by the end. -/
  | trailingComma
  /-- Something follows where there should be nothing more. -/
  | trailingCharacters
  /-- A field without a default is missing. -/
  | missingField (name : String)
  /-- A field is given twice. -/
  | duplicateField (name : String)
  /-- A list that stands for a record is too short. -/
  | tooFewElements (count : Nat) (expected : String)
  /-- A value is of the wrong type. -/
  | wrongType (found : Found) (expected : String)
  /-- An integer does not fit. -/
  | integerOutOfRange (value : Int) (expected : String)
deriving DecidableEq

/-- The three categories of causes. -/
inductive Category where
  /-- The document is no JSON. -/
  | syntactic
  /-- The document does not say what was asked for. -/
  | content
  /-- The document is the beginning of something. -/
  | unfinished
deriving DecidableEq, Repr

namespace Cause

/-- The category of a cause. -/
def category : Cause → Category
  | endInList | endInObject | endInText | endInValue => .unfinished
  | missingField _ | duplicateField _ | tooFewElements _ _ | wrongType _ _
  | integerOutOfRange _ _ => .content
  | _ => .syntactic

/-- The complaint about a cause. -/
def message : Cause → String
  | endInList => "EOF while parsing a list"
  | endInObject => "EOF while parsing an object"
  | endInText => "EOF while parsing a string"
  | endInValue => "EOF while parsing a value"
  | colonExpected => "expected `:`"
  | listEndExpected => "expected `,` or `]`"
  | objectEndExpected => "expected `,` or `\x7d`"
  | wordExpected => "expected ident"
  | valueExpected => "expected value"
  | badEscape => "invalid escape"
  | badNumber => "invalid number"
  | numberOutOfRange => "number out of range"
  | controlCharacter => "control character (\\u0000-\\u001F) found while parsing a string"
  | keyExpected => "key must be a string"
  | loneSurrogate => "lone leading surrogate in hex escape"
  | brokenSurrogate => "unexpected end of hex escape"
  | trailingComma => "trailing comma"
  | trailingCharacters => "trailing characters"
  | missingField name => s!"missing field `{name}`"
  | duplicateField name => s!"duplicate field `{name}`"
  | tooFewElements count expected => s!"invalid length {count}, expected {expected}"
  | wrongType found expected => s!"invalid type: {found.description}, expected {expected}"
  | integerOutOfRange value expected =>
    "invalid value: " ++ (Found.integer value).description ++ s!", expected {expected}"

end Cause

/-- A place in a document: lines count from one, bytes of a line from zero. -/
structure Position where
  line : Nat
  column : Nat
deriving DecidableEq, Repr

namespace Position

/-- The beginning of a document. -/
def start : Position := ⟨1, 0⟩

/-- The place some bytes further on. A line feed begins a line; any other character takes as many
columns as bytes, and its bytes may be split. -/
def advance (p : Position) : Nat → List Char → Position
  | 0, _ => p
  | _, [] => p
  | bytes + 1, c :: rest =>
    if c = '\n' then advance ⟨p.line + 1, 0⟩ bytes rest
    else advance ⟨p.line, p.column + min (bytes + 1) c.utf8Size⟩ (bytes + 1 - c.utf8Size) rest

/-- The place after a text. -/
def after (p : Position) (text : List Char) : Position :=
  text.foldl (fun p c => if c = '\n' then ⟨p.line + 1, 0⟩ else ⟨p.line, p.column + c.utf8Size⟩) p

end Position

/-- A cause, and where the reader stood when it met it. -/
structure Fault where
  /-- What is wrong. -/
  cause : Cause
  /-- What was left of the document. -/
  rest : List Char
  /-- How many bytes of that the complaint points beyond. -/
  ahead : Nat
deriving DecidableEq

/-- A cause at a place of a document: what leaves a reader. -/
structure Complaint where
  /-- What is wrong. -/
  cause : Cause
  /-- Where. -/
  place : Position
deriving DecidableEq

/-- The text of a complaint. -/
def Complaint.message (c : Complaint) : String :=
  s!"{c.cause.message} at line {c.place.line} column {c.place.column}"

namespace Fault

/-- A fault right here. -/
def here (cause : Cause) (rest : List Char) : Fault := ⟨cause, rest, 0⟩

/-- A fault of the next character: the complaint points behind its first byte. -/
def next (cause : Cause) (rest : List Char) : Fault := ⟨cause, rest, 1⟩

/-- The place of a fault in its document. -/
def place (f : Fault) (document : List Char) : Position :=
  (Position.start.after (document.take (document.length - f.rest.length))).advance f.ahead f.rest

/-- The complaint about a fault in its document. -/
def locate (f : Fault) (document : List Char) : Complaint := ⟨f.cause, f.place document⟩

end Fault

/-- Reads something from the front of a document and leaves the rest. -/
abbrev Reader (α : Type) := List Char → Except Fault (α × List Char)

end FaceAnnotator.Json
