import FaceAnnotator.Json.Fault
/-!
# FaceAnnotator.Json.Scan

**The smallest steps of a reader**: blanks between tokens, digits, and the three words that are
values.
-/

namespace FaceAnnotator.Json

/-- Whether a character may stand between tokens. These are four of the blanks of a text. -/
def isSpace (c : Char) : Bool := c = ' ' || c = '\n' || c = '\t' || c = '\r'

/-- The document from its next token on. -/
def skipSpace (rest : List Char) : List Char := rest.dropWhile isSpace

/-- Whether a character is a decimal digit. Only the ten ASCII digits are. -/
def isDigit (c : Char) : Bool := '0' ≤ c && c ≤ '9'

/-- The value of a decimal digit. -/
def digitValue (c : Char) : Nat := c.toNat - 48

/-- Whether a document goes on with a digit. -/
def startsWithDigit : List Char → Bool
  | c :: _ => isDigit c
  | [] => false

/-- The document without the digits at its front. -/
def skipDigits (rest : List Char) : List Char := rest.dropWhile isDigit

/-- What follows a given word. -/
def word : List Char → List Char → Except Fault (List Char)
  | [], rest => .ok rest
  | _ :: _, [] => .error (.here .endInValue [])
  | expected :: letters, c :: rest =>
    if c = expected then word letters rest else .error (.next .wordExpected (c :: rest))

@[simp] theorem skipSpace_nil : skipSpace [] = [] := rfl

/-- A word is followed by what follows it. -/
@[simp] theorem word_append (letters rest : List Char) :
    word letters (letters ++ rest) = .ok rest := by
  induction letters with
  | nil => rfl
  | cons c letters ih => simpa [word] using ih

end FaceAnnotator.Json
