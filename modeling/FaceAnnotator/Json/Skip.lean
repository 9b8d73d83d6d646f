import FaceAnnotator.Json.Literal
/-!
# FaceAnnotator.Json.Skip

**Passing over a value that nobody asked for.**

An unknown member may hold any value, nested to any depth. Its syntax is checked and nothing else:
numbers may be too great and surrogates alone. The enclosing lists and objects are kept in a list,
innermost first, so depth costs no stack: `Skip.within` is a loop.
-/

namespace FaceAnnotator.Json.Skip

/-- What follows the exponent of a number, the letter being passed. -/
def exponent (rest : List Char) : Except Fault (List Char) :=
  let digits :=
    match rest with
    | '+' :: after => after
    | '-' :: after => after
    | _ => rest
  if startsWithDigit digits then .ok (skipDigits digits) else .error (.next .badNumber digits)

/-- What follows an exponent, if there is one. -/
def maybeExponent : List Char → Except Fault (List Char)
  | 'e' :: rest => exponent rest
  | 'E' :: rest => exponent rest
  | rest => .ok rest

/-- What follows the part of a number behind its whole digits. -/
def afterWhole : List Char → Except Fault (List Char)
  | '.' :: rest =>
    if startsWithDigit rest then maybeExponent (skipDigits rest)
    else .error (.next .badNumber rest)
  | rest => maybeExponent rest

/-- What follows a number, its sign being passed. -/
def number : List Char → Except Fault (List Char)
  | [] => .error (.here .badNumber [])
  | c :: rest =>
    if c = '0' then
      if startsWithDigit rest then .error (.next .badNumber rest) else afterWhole rest
    else if isDigit c then afterWhole (skipDigits rest)
    else .error (.next .badNumber (c :: rest))

/-- What follows a value that is neither list nor object and begins with the given character. -/
def scalar (c : Char) (rest : List Char) : Except Fault (List Char) :=
  if c = 'n' then word ['u', 'l', 'l'] rest
  else if c = 't' then word ['r', 'u', 'e'] rest
  else if c = 'f' then word ['a', 'l', 's', 'e'] rest
  else if c = '-' then number rest
  else if isDigit c then number (c :: rest)
  else if c = '"' then Literal.skip rest
  else .error (.next .valueExpected (c :: rest))

/-- What encloses a value. -/
inductive Enclosure where
  | list
  | object
deriving DecidableEq, Repr

namespace Enclosure

/-- The character that ends an enclosure. -/
def closing : Enclosure → Char
  | list => ']'
  | object => '\x7d'

/-- The complaint if the document ends first. -/
def unfinished : Enclosure → Cause
  | list => .endInList
  | object => .endInObject

/-- The complaint if something else follows a value. -/
def endExpected : Enclosure → Cause
  | list => .listEndExpected
  | object => .objectEndExpected

/-- What precedes a value: nothing in a list, and a key with its colon in an object. -/
def key : Enclosure → List Char → Except Fault (List Char)
  | list, rest => .ok rest
  | object, rest =>
    match skipSpace rest with
    | [] => .error (.next .endInObject [])
    | c :: rest =>
      if c = '"' then
        match Literal.skip rest with
        | .error fault => .error fault
        | .ok rest =>
          match skipSpace rest with
          | [] => .error (.next .endInObject [])
          | c :: rest =>
            if c = ':' then .ok rest else .error (.next .colonExpected (c :: rest))
      else .error (.next .keyExpected (c :: rest))

end Enclosure

/-- Where the loop stands. -/
inductive Stage where
  /-- Before a value. -/
  | value
  /-- Inside an enclosure: right behind its opening, or behind a value. -/
  | inside (behindValue : Bool)
deriving DecidableEq, Repr

/-- The loop, for at most `fuel` steps. -/
def within : Nat → Stage → List Enclosure → List Char → Except Fault (List Char)
  | 0, _, _, rest => .error (.next .endInValue rest)
  | fuel + 1, .value, enclosures, rest =>
    match skipSpace rest with
    | [] => .error (.next .endInValue [])
    | '[' :: rest => within fuel (.inside false) (.list :: enclosures) rest
    | '\x7b' :: rest => within fuel (.inside false) (.object :: enclosures) rest
    | c :: rest =>
      match scalar c rest with
      | .error fault => .error fault
      | .ok rest => within fuel (.inside true) enclosures rest
  | _ + 1, .inside _, [], rest => .ok rest
  | fuel + 1, .inside behindValue, e :: enclosures, rest =>
    match skipSpace rest with
    | [] => .error (.next e.unfinished [])
    | c :: rest =>
      if c = ',' && behindValue then
        match e.key rest with
        | .error fault => .error fault
        | .ok rest => within fuel .value (e :: enclosures) rest
      else if c = e.closing then within fuel (.inside true) enclosures rest
      else if behindValue then .error (.next e.endExpected (c :: rest))
      else
        match e.key (c :: rest) with
        | .error fault => .error fault
        | .ok rest => within fuel .value (e :: enclosures) rest

/-- What follows a value. Each character takes at most two steps: an opening one is read before the
loop turns to what it encloses. -/
def value (rest : List Char) : Except Fault (List Char) :=
  within (2 * rest.length + 2) .value [] rest

end FaceAnnotator.Json.Skip
