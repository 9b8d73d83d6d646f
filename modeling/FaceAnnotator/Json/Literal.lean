import FaceAnnotator.Json.Scan
import FaceAnnotator.Text.Utf8
/-!
# FaceAnnotator.Json.Literal

**Strings of a document.**

All readers here begin behind the opening quote. `Literal.read` gives the text that a literal
stands for; `Literal.skip` only looks for its end and lets escaped surrogates pass, paired or
not. A character beyond the sixteen-bit range may be written as two escapes, a high surrogate and
a low one.
-/

namespace FaceAnnotator.Json.Literal

/-- The value of a hexadecimal digit. -/
def hexValue (c : Char) : Option Nat :=
  if '0' ≤ c && c ≤ '9' then some (c.toNat - 48)
  else if 'a' ≤ c && c ≤ 'f' then some (c.toNat - 87)
  else if 'A' ≤ c && c ≤ 'F' then some (c.toNat - 55)
  else none

/-- The four hexadecimal digits of an escape. -/
def hexEscape : Reader Nat := fun rest =>
  -- Four bytes are taken before any of them is looked at.
  let fault : Fault :=
    if (Text.encode (rest.take 4)).length < 4 then .here .endInText [] else ⟨.badEscape, rest, 4⟩
  match rest with
  | a :: b :: c :: d :: after =>
    match hexValue a, hexValue b, hexValue c, hexValue d with
    | some a, some b, some c, some d => .ok (((a * 16 + b) * 16 + c) * 16 + d, after)
    | _, _, _, _ => .error fault
  | _ => .error fault

/-- Whether a number is a high surrogate, the first of two. -/
def isHighSurrogate (n : Nat) : Bool := 0xD800 ≤ n && n ≤ 0xDBFF

/-- Whether a number is a low surrogate, the second of two. -/
def isLowSurrogate (n : Nat) : Bool := 0xDC00 ≤ n && n ≤ 0xDFFF

/-- Reads the low surrogate after a high one. -/
def lowSurrogate (high : Nat) : Reader Char
  | '\\' :: 'u' :: rest =>
    match hexEscape rest with
    | .error fault => .error fault
    | .ok (low, rest) =>
      if isLowSurrogate low then
        .ok (Char.ofNat (0x10000 + (high - 0xD800) * 1024 + (low - 0xDC00)), rest)
      else .error (.here .loneSurrogate rest)
  | ['\\'] => .error (.here .endInText [])
  | '\\' :: rest => .error (.next .brokenSurrogate rest)
  | [] => .error (.here .endInText [])
  | rest => .error (.next .brokenSurrogate rest)

/-- Reads a character that is written by its number. -/
def unicodeEscape : Reader Char := fun rest =>
  match hexEscape rest with
  | .error fault => .error fault
  | .ok (n, rest) =>
    if isLowSurrogate n then .error (.here .loneSurrogate rest)
    else if isHighSurrogate n then lowSurrogate n rest
    else .ok (Char.ofNat n, rest)

/-- The character of an escape of one letter. -/
def shortEscape (c : Char) : Option Char :=
  if c = '"' then some '"'
  else if c = '\\' then some '\\'
  else if c = '/' then some '/'
  else if c = 'b' then some '\x08'
  else if c = 'f' then some '\x0c'
  else if c = 'n' then some '\n'
  else if c = 'r' then some '\r'
  else if c = 't' then some '\t'
  else none

/-- Reads what follows a backslash. -/
def escape : Reader Char
  | [] => .error (.here .endInText [])
  | c :: rest =>
    match shortEscape c with
    | some d => .ok (d, rest)
    | none => if c = 'u' then unicodeEscape rest else .error (.next .badEscape (c :: rest))

/-- Whether a character must not stand unescaped. -/
def isControl (c : Char) : Bool := c < ' '

/-- One character at a time, at most `fuel` of them. -/
def readWithin : Nat → List Char → Reader (List Char)
  | fuel + 1, done, c :: rest =>
    if c = '"' then .ok (done.reverse, rest)
    else if c = '\\' then
      match escape rest with
      | .error fault => .error fault
      | .ok (d, rest) => readWithin fuel (d :: done) rest
    else if isControl c then .error (.next .controlCharacter (c :: rest))
    else readWithin fuel (c :: done) rest
  | _, _, _ => .error (.here .endInText [])

/-- Reads a literal to its closing quote. -/
def read : Reader (List Char) := fun rest => readWithin rest.length [] rest

/-- What follows an escape. -/
def skipEscape : List Char → Except Fault (List Char)
  | [] => .error (.here .endInText [])
  | c :: rest =>
    if (shortEscape c).isSome then .ok rest
    else if c = 'u' then (hexEscape rest).map Prod.snd
    else .error (.next .badEscape (c :: rest))

/-- One character at a time, at most `fuel` of them. -/
def skipWithin : Nat → List Char → Except Fault (List Char)
  | fuel + 1, c :: rest =>
    if c = '"' then .ok rest
    else if c = '\\' then
      match skipEscape rest with
      | .error fault => .error fault
      | .ok rest => skipWithin fuel rest
    else if isControl c then .error (.here .controlCharacter (c :: rest))
    else skipWithin fuel rest
  | _, _ => .error (.here .endInText [])

/-- What follows a literal. -/
def skip (rest : List Char) : Except Fault (List Char) := skipWithin rest.length rest

end FaceAnnotator.Json.Literal
