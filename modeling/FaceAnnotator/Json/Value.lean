import FaceAnnotator.Json.Number
import FaceAnnotator.Json.Literal
/-!
# FaceAnnotator.Json.Value

**Readers of values of one type**: integers that have to fit, numbers, strings and lists.

A reader that meets a value of another type complains about that value, not about its type
alone, so `wrongType` reads as much of it as the complaint quotes. If that part is malformed,
its own complaint wins.
-/

namespace FaceAnnotator.Json

open Numeric

/-- The complaint about the value at the front of a document, which has the wrong type. -/
def wrongType (expected : String) (rest : List Char) : Fault :=
  let complain (found : Found) (rest : List Char) : Fault := .here (.wrongType found expected) rest
  let ofWord (found : Found) : Except Fault (List Char) → Fault
    | .error fault => fault
    | .ok rest => complain found rest
  let ofNumber : Except Fault (Number × List Char) → Fault
    | .error fault => fault
    | .ok (number, rest) => complain number.found rest
  match rest with
  | [] => .next .valueExpected []
  | c :: after =>
    if c = 'n' then ofWord .null (word ['u', 'l', 'l'] after)
    else if c = 't' then ofWord (.boolean true) (word ['r', 'u', 'e'] after)
    else if c = 'f' then ofWord (.boolean false) (word ['a', 'l', 's', 'e'] after)
    else if c = '-' then ofNumber (Number.read true after)
    else if isDigit c then ofNumber (Number.read false rest)
    else if c = '"' then
      match Literal.read after with
      | .error fault => fault
      | .ok (text, rest) => complain (.text text) rest
    else if c = '[' then complain .sequence rest
    else if c = '\x7b' then complain .map rest
    else .next .valueExpected rest

/-- Reads a number. -/
def number (expected : String) : Reader Number := fun rest =>
  match skipSpace rest with
  | [] => .error (.next .endInValue [])
  | c :: rest =>
    if c = '-' then Number.read true rest
    else if isDigit c then Number.read false (c :: rest)
    else .error (wrongType expected (c :: rest))

/-- Reads an integer from `least` to `greatest`. -/
def integer (expected : String) (least greatest : Int) : Reader Int := fun rest =>
  match number expected rest with
  | .error fault => .error fault
  | .ok (.real x, rest) => .error (.here (.wrongType (.real x) expected) rest)
  | .ok (.natural n, rest) =>
    if (n : Int) ≤ greatest then .ok (n, rest)
    else .error (.here (.integerOutOfRange n expected) rest)
  | .ok (.negative n, rest) =>
    if least ≤ n then .ok (n, rest) else .error (.here (.integerOutOfRange n expected) rest)

/-- The word of the narrow format nearest to a number. An integer is rounded once; any other number
has already been rounded to the wide format. -/
def Number.single : Number → Single
  | .natural n => Binary.ofNat n
  | .negative n => Binary.ofInt n
  | .real x => x.convert

/-- Reads a word of the narrow format. -/
def single : Reader Single := fun rest =>
  match number "f32" rest with
  | .error fault => .error fault
  | .ok (n, rest) => .ok (n.single, rest)

/-- Reads a string. -/
def text : Reader String := fun rest =>
  match skipSpace rest with
  | [] => .error (.next .endInValue [])
  | c :: rest =>
    if c = '"' then
      match Literal.read rest with
      | .error fault => .error fault
      | .ok (chars, rest) => .ok (String.ofList chars, rest)
    else .error (wrongType "a string" (c :: rest))

/-- Reads a string, or `null` for none. -/
def optionalText : Reader (Option String) := fun rest =>
  match skipSpace rest with
  | 'n' :: after =>
    match word ['u', 'l', 'l'] after with
    | .error fault => .error fault
    | .ok rest => .ok (none, rest)
  | rest =>
    match text rest with
    | .error fault => .error fault
    | .ok (s, rest) => .ok (some s, rest)

/-! ### Lists -/

/-- Whether a list goes on with an element, and the document from that element on, or from the end
of the list on. -/
def nextElement (first : Bool) : Reader Bool := fun rest =>
  match skipSpace rest with
  | [] => .error (.next .endInList [])
  | ']' :: after => .ok (false, ']' :: after)
  | c :: after =>
    if first then .ok (true, c :: after)
    else if c = ',' then
      match skipSpace after with
      | [] => .error (.next .endInValue [])
      | ']' :: after => .error (.next .trailingComma (']' :: after))
      | rest => .ok (true, rest)
    else .error (.next .listEndExpected (c :: after))

/-- Passes the end of a list. -/
def endList (rest : List Char) : Except Fault (List Char) :=
  match skipSpace rest with
  | [] => .error (.next .endInList [])
  | ']' :: after => .ok after
  | ',' :: after =>
    match skipSpace after with
    | ']' :: after => .error (.next .trailingComma (']' :: after))
    | rest => .error (.next .trailingCharacters rest)
  | rest => .error (.next .trailingCharacters rest)

/-- Reads the elements of a list up to its end, at most `fuel` of them. -/
def elementsWithin {α : Type} (element : Reader α) : Nat → Bool → List α → Reader (List α)
  | 0, _, _, rest => .error (.next .endInList rest)
  | fuel + 1, first, done, rest =>
    match nextElement first rest with
    | .error fault => .error fault
    | .ok (false, rest) => .ok (done.reverse, rest)
    | .ok (true, rest) =>
      match element rest with
      | .error fault => .error fault
      | .ok (x, rest) => elementsWithin element fuel false (x :: done) rest

/-- Reads a list. -/
def list {α : Type} (element : Reader α) : Reader (List α) := fun rest =>
  match skipSpace rest with
  | [] => .error (.next .endInValue [])
  | '[' :: after =>
    match elementsWithin element (after.length + 1) true [] after with
    | .error fault => .error fault
    | .ok (xs, rest) =>
      match endList rest with
      | .error fault => .error fault
      | .ok rest => .ok (xs, rest)
  | rest => .error (wrongType "a sequence" rest)

/-! ### Documents -/

/-- Reads a whole document: a value and nothing after it but spaces. -/
def document {α : Type} (value : Reader α) (text : List Char) : Except Complaint α :=
  match value text with
  | .error fault => .error (fault.locate text)
  | .ok (x, rest) =>
    match skipSpace rest with
    | [] => .ok x
    | c :: rest => .error ((Fault.next .trailingCharacters (c :: rest)).locate text)

end FaceAnnotator.Json
