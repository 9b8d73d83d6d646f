import FaceAnnotator.Json.Skip
import FaceAnnotator.Json.Value
/-!
# FaceAnnotator.Json.Schema

**Reading records.**

A record is written as an object, its fields in any order and unknown members among them, or as a
list of its fields in their own order. A `Schema` says which fields there are and how a record is
made of what was read for them; `Schema.read` reads both forms.

* A field that is given twice is an error, which is noticed at its key.
* A required field that is missing is an error, which is noticed at the end of the object or list. A
  list may leave out fields only at its end.
* Unknown members are passed over (`FaceAnnotator.Json.Skip`).
-/

namespace FaceAnnotator.Json

/-- One field of a record whose fields are collected in a `σ`. -/
structure Field (σ : Type) where
  /-- The key of the field. -/
  name : String
  /-- Whether a record without the field is an error. -/
  required : Bool
  /-- Whether the field has been read. -/
  isSet : σ → Bool
  /-- Reads the field. -/
  read : σ → Reader σ

/-- How to read a record. -/
structure Schema (σ α : Type) where
  /-- What a complaint expects in place of something else. -/
  expected : String
  /-- The fields, in the order of the list form. -/
  fields : List (Field σ)
  /-- Nothing read yet. -/
  none : σ
  /-- The record, or the first required field that is missing. -/
  build : σ → Except String α

namespace Schema

variable {σ α : Type}

/-- Whether an object goes on with a member, and the document from behind the quote of its key on,
or from the end of the object on. -/
def nextKey (first : Bool) : Reader Bool := fun rest =>
  match skipSpace rest with
  | [] => .error (.next .endInObject [])
  | '\x7d' :: after => .ok (false, '\x7d' :: after)
  | c :: after =>
    if first then
      if c = '"' then .ok (true, after) else .error (.next .keyExpected (c :: after))
    else if c = ',' then
      match skipSpace after with
      | [] => .error (.next .endInValue [])
      | '"' :: after => .ok (true, after)
      | '\x7d' :: after => .error (.next .trailingComma ('\x7d' :: after))
      | rest => .error (.next .keyExpected rest)
    else .error (.next .objectEndExpected (c :: after))

/-- Passes the colon behind a key. -/
def colon (rest : List Char) : Except Fault (List Char) :=
  match skipSpace rest with
  | [] => .error (.next .endInObject [])
  | ':' :: after => .ok after
  | rest => .error (.next .colonExpected rest)

/-- The document behind the end of an object, if it ends here. A complaint about a whole
record points there. -/
def behindObject (rest : List Char) : List Char :=
  match skipSpace rest with
  | '\x7d' :: after => after
  | rest => rest

/-- The document behind the end of a list, if it ends here. -/
def behindList (rest : List Char) : List Char :=
  match skipSpace rest with
  | ']' :: after => after
  | rest => rest

/-- The field with a key. -/
def field? (s : Schema σ α) (key : List Char) : Option (Field σ) :=
  s.fields.find? fun field => field.name.toList == key

/-- Reads one member from behind the quote of its key on. -/
def member (s : Schema σ α) (collected : σ) : Reader σ := fun rest =>
  match Literal.read rest with
  | .error fault => .error fault
  | .ok (key, rest) =>
    match s.field? key with
    | .none =>
      match colon rest with
      | .error fault => .error fault
      | .ok rest => (Skip.value rest).map fun rest => (collected, rest)
    | .some field =>
      -- The second value is not even looked at.
      if field.isSet collected then
        .error (.here (.duplicateField field.name) (behindObject rest))
      else
        match colon rest with
        | .error fault => .error fault
        | .ok rest => field.read collected rest

/-- Reads the members of an object up to its end, at most `fuel` of them. -/
def membersWithin (s : Schema σ α) : Nat → Bool → σ → Reader σ
  | 0, _, _, rest => .error (.next .endInObject rest)
  | fuel + 1, first, collected, rest =>
    match nextKey first rest with
    | .error fault => .error fault
    | .ok (false, rest) => .ok (collected, rest)
    | .ok (true, rest) =>
      match s.member collected rest with
      | .error fault => .error fault
      | .ok (collected, rest) => membersWithin s fuel false collected rest

/-- Reads the object form, from behind its opening on. -/
def object (s : Schema σ α) : Reader α := fun rest =>
  match s.membersWithin (rest.length + 1) true s.none rest with
  | .error fault => .error fault
  | .ok (collected, rest) =>
    match s.build collected with
    | .error name => .error (.here (.missingField name) (behindObject rest))
    | .ok x => .ok (x, behindObject rest)

/-- Reads the fields of the list form. `count` of them have been asked for before. -/
def elements (s : Schema σ α) : List (Field σ) → Nat → σ → Reader σ
  | [], _, collected, rest => .ok (collected, rest)
  | field :: fields, count, collected, rest =>
    match nextElement (count = 0) rest with
    | .error fault => .error fault
    | .ok (false, rest) =>
      if field.required then
        .error (.here (.tooFewElements count
          s!"{s.expected} with {s.fields.length} elements") (behindList rest))
      else elements s fields (count + 1) collected rest
    | .ok (true, rest) =>
      match field.read collected rest with
      | .error fault => .error fault
      | .ok (collected, rest) => elements s fields (count + 1) collected rest

/-- Reads the list form, from behind its opening on. -/
def sequence (s : Schema σ α) : Reader α := fun rest =>
  match s.elements s.fields 0 s.none rest with
  | .error fault => .error fault
  | .ok (collected, rest) =>
    match s.build collected with
    | .error name => .error (.here (.missingField name) (behindList rest))
    | .ok x =>
      match endList rest with
      | .error fault => .error fault
      | .ok rest => .ok (x, rest)

/-- Reads a record in either form. -/
def read (s : Schema σ α) : Reader α := fun rest =>
  match skipSpace rest with
  | [] => .error (.next .endInValue [])
  | '\x7b' :: rest => s.object rest
  | '[' :: rest => s.sequence rest
  | rest => .error (wrongType s.expected rest)

end Schema

end FaceAnnotator.Json
