import FaceAnnotator.Telemetry.Basic
/-!
# FaceAnnotator.CommandLine.Arguments

**Reading the arguments of the command.**

Arguments are read from the left. A value is looked at only when the next argument shows that it is
complete: until then it is *pending*. So of two mistakes the one whose argument ends first is
reported, except that an argument nobody knows is reported before a pending value is looked at.

Behind `--` every argument is a value.
-/

namespace FaceAnnotator.CommandLine

/-- What the command is asked to do. -/
structure Arguments where
  /-- The recording to read. -/
  input : String
  /-- The file to write; the console if there is none. -/
  output : Option String := none
  /-- After how many frames progress is logged. -/
  progressEvery : Nat := Telemetry.defaultEvery
  /-- Whether to leave out the summary at the end. -/
  noSummary : Bool := false
deriving DecidableEq, Repr

/-- Why arguments make no command. -/
inductive UsageFault where
  /-- Nobody knows the argument. -/
  | unknown (argument : String)
  /-- There is no recording to read. -/
  | inputMissing
  /-- A value is missing or empty. -/
  | valueMissing (argument : String)
  /-- A value is no number of frames. -/
  | noNumber (value : String)
  /-- An option is given twice. -/
  | repeated (argument : String)
  /-- An option that takes no value has one. -/
  | unneededValue (argument value : String)
  /-- Nothing is wrong, but somebody asks for help. -/
  | help
deriving DecidableEq, Repr

/-! ### Words of the command -/

/-- The option for `Arguments.progressEvery`. -/
def everyOption : String := "progress-every"

/-- The option for `Arguments.noSummary`. -/
def noSummaryOption : String := "no-summary"

/-- The option that asks for help. -/
def helpOption : String := "help"

/-- How an argument is written. -/
inductive Word where
  /-- Two dashes. -/
  | escape
  /-- Two dashes and a name, perhaps with a value behind an equals sign. -/
  | long (name : String) (value : Option String)
  /-- One dash and letters, of which the first is given. -/
  | short (letter : Char)
  /-- Anything else. -/
  | plain
deriving DecidableEq, Repr

/-- A name and what is behind its first equals sign. -/
def splitValue (text : List Char) : List Char × Option (List Char) :=
  match text.dropWhile (· != '=') with
  | [] => (text, none)
  | _ :: value => (text.takeWhile (· != '='), some value)

/-- How an argument is written. A single dash is a value. -/
def Word.ofText (text : String) : Word :=
  match text.toList with
  | ['-', '-'] => .escape
  | '-' :: '-' :: rest =>
    let (name, value) := splitValue rest
    .long (String.ofList name) (value.map String.ofList)
  | '-' :: letter :: _ => .short letter
  | _ => .plain

/-- One more than the greatest number of frames. -/
def frameLimit : Nat := 18446744073709551616

/-- Digits, perhaps with a plus in front of them. -/
def unsignedDigits (text : List Char) : List Char :=
  match text with
  | '+' :: digits => digits
  | digits => digits

/-- The number of frames that a text writes. -/
def readNumber (text : String) : Option Nat :=
  let digits := unsignedDigits text.toList
  if digits.isEmpty || !digits.all Char.isDigit then none
  else
    let number := digits.foldl (fun n c => n * 10 + (c.toNat - 48)) 0
    if number < frameLimit then some number else none

/-! ### Reading -/

/-- A value that nobody has looked at. -/
inductive Pending where
  | nothing
  /-- A value that belongs to no option. -/
  | plain (text : String)
  /-- The value of `everyOption`, once it is there. -/
  | every (value : Option String)
deriving DecidableEq, Repr

/-- The arguments as far as they have been read. -/
structure Draft where
  pending : Pending := .nothing
  /-- The values that belong to no option. -/
  plain : List String := []
  every : Option Nat := none
  noSummary : Bool := false
deriving DecidableEq, Repr

namespace Draft

/-- Takes the value of `everyOption`, which may be given once. -/
def takeEvery (d : Draft) (value : String) : Except UsageFault Draft :=
  if d.every.isSome then .error (.repeated everyOption)
  else
    match readNumber value with
    | none => .error (.noNumber value)
    | some every => .ok { d with every := some every }

/-- Looks at the value that is pending. -/
def settle (d : Draft) : Except UsageFault Draft :=
  match d.pending with
  | .nothing => .ok d
  | .plain text =>
    if text = "" then .error (.valueMissing (if d.plain.isEmpty then "INPUT" else "OUTPUT"))
    else .ok { d with pending := .nothing, plain := d.plain ++ [text] }
  | .every none => .error (.valueMissing everyOption)
  | .every (some value) => { d with pending := .nothing }.takeEvery value

/-- Whether two values without an option are there already. -/
def isFull (d : Draft) : Bool :=
  match d.pending with
  | .plain _ => d.plain.length == 1
  | _ => d.plain.length == 2

/-- Takes a value that belongs to no option. -/
def takePlain (d : Draft) (text : String) : Except UsageFault Draft :=
  if d.isFull then .error (.unknown text)
  else
    match d.settle with
    | .error fault => .error fault
    | .ok d => .ok { d with pending := .plain text }

/-- Takes a value, which belongs to an option that waits for one. -/
def takeValue (d : Draft) (text : String) : Except UsageFault Draft :=
  match d.pending with
  | .every none => .ok { d with pending := .every (some text) }
  | _ => d.takePlain text

/-- Takes an option by its name, with the value that is attached to it. -/
def takeOption (d : Draft) (name : String) (value : Option String) : Except UsageFault Draft :=
  if name = everyOption then
    match d.settle with
    | .error fault => .error fault
    | .ok d =>
      match value with
      | none => .ok { d with pending := .every none }
      | some text => d.takeEvery text
  else if name = noSummaryOption || name = helpOption then
    match value with
    | some text => .error (.unneededValue name text)
    | none =>
      match d.settle with
      | .error fault => .error fault
      | .ok d =>
        if name = helpOption then .error .help
        else if d.noSummary then .error (.repeated noSummaryOption)
        else .ok { d with noSummary := true }
  else .error (.unknown ("--" ++ name))

/-- Takes an option by its letter; only help has one. -/
def takeLetter (d : Draft) (letter : Char) : Except UsageFault Draft :=
  if letter = 'h' then
    match d.settle with
    | .error fault => .error fault
    | .ok _ => .error .help
  else .error (.unknown (String.ofList ['-', letter]))

/-- Takes all arguments, none of which is an option. -/
def takeAllPlain : Draft → List String → Except UsageFault Draft
  | d, [] => .ok d
  | d, text :: rest =>
    match d.takePlain text with
    | .error fault => .error fault
    | .ok d => takeAllPlain d rest

/-- Takes all arguments. -/
def takeAll : Draft → List String → Except UsageFault Draft
  | d, [] => .ok d
  | d, text :: rest =>
    match Word.ofText text with
    | .escape => takeAllPlain d rest
    | word =>
      let next :=
        match word with
        | .long name value => d.takeOption name value
        | .short letter => d.takeLetter letter
        | _ => d.takeValue text
      match next with
      | .error fault => .error fault
      | .ok d => takeAll d rest

/-- The finished arguments. -/
def finish (d : Draft) : Except UsageFault Arguments :=
  match d.settle with
  | .error fault => .error fault
  | .ok d =>
    match d.plain with
    | [] => .error .inputMissing
    | input :: others =>
      .ok ⟨input, others.head?, d.every.getD Telemetry.defaultEvery, d.noSummary⟩

end Draft

/-- Reads the arguments of the command. -/
def Arguments.parse (arguments : List String) : Except UsageFault Arguments :=
  match Draft.takeAll {} arguments with
  | .error fault => .error fault
  | .ok d => d.finish

/-! ### What the command says about its usage -/

/-- How the command is called. -/
def usageLine : String := "Usage: face-label [OPTIONS] <INPUT> [OUTPUT]"

/-- The options and values of the command. -/
def helpText : String :=
  "Label detected faces with age, gender and emotion from recorded classifier outputs\n\n" ++
    usageLine ++ "\n\n" ++
    "Arguments:\n" ++
    "  <INPUT>   Input frames, one JSON object per line\n" ++
    "  [OUTPUT]  Output file for labeled frames (stdout if omitted)\n\n" ++
    "Options:\n" ++
    "      --progress-every <PROGRESS_EVERY>  Log progress every N frames [default: 10]\n" ++
    "      --no-summary                       Skip the end-of-run timing summary\n" ++
    "  -h, --help                             Print help\n"

namespace UsageFault

/-- The cause of a fault. -/
def cause : UsageFault → String
  | unknown argument => s!"unexpected argument '{argument}' found"
  | inputMissing => "the following required arguments were not provided:\n  <INPUT>"
  | valueMissing argument => s!"a value is required for '{argument}' but none was supplied"
  | noNumber value => s!"invalid value '{value}' for '--{everyOption}'"
  | repeated argument => s!"the argument '--{argument}' cannot be used multiple times"
  | unneededValue argument value =>
    s!"unexpected value '{value}' for '--{argument}' found; no more were expected"
  | help => ""

/-- What is said about a fault. -/
def message (fault : UsageFault) : String :=
  s!"error: {fault.cause}\n\n{usageLine}\n\nFor more information, try '--help'."

end UsageFault

end FaceAnnotator.CommandLine
