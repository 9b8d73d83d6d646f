import FaceAnnotator.Numeric.Notation
/-!
# FaceAnnotator.Json.Printing

**Writing documents, piece by piece.**

A document is a list of *pieces*, the texts that are handed to a sink one after the other; without
spaces anywhere. The text of a document is its pieces in a row. Where one piece ends matters only to
a sink that may fail or hold pieces back.

Inside a literal only the quote, the backslash and the characters below the space are escaped. So no
written document holds a raw line feed.
-/

namespace FaceAnnotator.Json

open Numeric

/-- The texts that are written one after the other. -/
abbrev Pieces := List (List Char)

/-- The last hexadecimal digit of an escape below `\u0020`, and the one before it. -/
def lowEscape (n : Nat) : List Char :=
  ['\\', 'u', '0', '0', Nat.digitChar (n / 16), Nat.digitChar (n % 16)]

/-- The escape of a character that must not stand as it is. -/
def escaped (c : Char) : Option (List Char) :=
  if c = '"' then some ['\\', '"']
  else if c = '\\' then some ['\\', '\\']
  else if c = '\x08' then some ['\\', 'b']
  else if c = '\t' then some ['\\', 't']
  else if c = '\n' then some ['\\', 'n']
  else if c = '\x0c' then some ['\\', 'f']
  else if c = '\r' then some ['\\', 'r']
  else if c < ' ' then some (lowEscape c.toNat)
  else none

/-- A run of characters that stand as they are, kept in reverse, as a piece. -/
def runPiece (run : List Char) : Pieces := if run.isEmpty then [] else [run.reverse]

/-- The pieces of the inside of a literal: its longest runs without escapes, and its escapes. `run`
is the run that has begun, in reverse. -/
def insidePieces : List Char → List Char → Pieces
  | run, [] => runPiece run
  | run, c :: text =>
    match escaped c with
    | some escape => runPiece run ++ escape :: insidePieces [] text
    | none => insidePieces (c :: run) text

/-- The pieces of a literal. -/
def literal (text : List Char) : Pieces := ['"'] :: insidePieces [] text ++ [['"']]

/-- The pieces of an integer. -/
def integerPieces (n : Int) : Pieces := [integerText n]

/-- The pieces of a word of data: `null` where there is no number. -/
def singlePieces (x : Single) : Pieces :=
  [if x.isFinite then x.text .data else ['n', 'u', 'l', 'l']]

/-- The pieces of a list, given those of its elements. -/
def listPieces (elements : List Pieces) : Pieces :=
  ['['] :: ([[',']] : Pieces).intercalate elements ++ [[']']]

/-- The pieces of a member of an object. -/
def memberPieces (key : String) (value : Pieces) : Pieces := literal key.toList ++ [':'] :: value

/-- The pieces of an object, given those of its members. -/
def objectPieces (members : List Pieces) : Pieces :=
  ['\x7b'] :: ([[',']] : Pieces).intercalate members ++ [['\x7d']]

/-- The text of a literal is a text between quotes, each character escaped if it has to be. -/
theorem flatten_insidePieces (run text : List Char) :
    (insidePieces run text).flatten =
      run.reverse ++ text.flatMap fun c => (escaped c).getD [c] := by
  induction text generalizing run with
  | nil => cases run <;> simp [insidePieces, runPiece]
  | cons c text ih =>
    cases h : escaped c with
    | none => simp [insidePieces, h, ih]
    | some escape => cases run <;> simp [insidePieces, runPiece, h, ih]

end FaceAnnotator.Json
