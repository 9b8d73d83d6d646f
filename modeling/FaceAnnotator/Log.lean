import FaceAnnotator.Text.Terminal
/-!
# FaceAnnotator.Log

**What the program tells about its work**, apart from its output.

A `Record` is one message with the `Level` it matters at and the `Area` of the program it comes
from. Parts that have something to tell return their records as values; only the command decides
which of them are shown (`FaceAnnotator.CommandLine.Filter`).
-/

namespace FaceAnnotator

/-- How much a record matters, the most urgent level first. -/
inductive Level where
  | error
  | warn
  | info
  | debug
  | trace
deriving DecidableEq, Repr

namespace Level

/-- All levels, the most urgent one first. -/
def all : List Level := [error, warn, info, debug, trace]

/-- The place of a level among all of them. -/
def rank : Level → Nat
  | error => 1
  | warn => 2
  | info => 3
  | debug => 4
  | trace => 5

/-- The name of a level, as a record shows it. -/
def name : Level → String
  | error => "ERROR"
  | warn => "WARN"
  | info => "INFO"
  | debug => "DEBUG"
  | trace => "TRACE"

end Level

/-- The part of the program that a record comes from. -/
inductive Area where
  /-- The command itself. -/
  | command
  /-- Reading labels out of tensors. -/
  | labeling
  /-- Progress and totals of a run. -/
  | pipeline
  /-- Files of frames. -/
  | recording
deriving DecidableEq, Repr

/-- The name that an area goes by when somebody asks for its records. -/
def Area.name : Area → String
  | command => "face_label"
  | labeling => "face_label_core::labeling::label_deriver"
  | pipeline => "face_label_core::pipeline::pipeline_logger"
  | recording => "face_label_core::video::infrastructure::json_lines_reader"

/-- One message of the log. -/
structure Record where
  /-- How much it matters. -/
  level : Level
  /-- Where it comes from. -/
  area : Area
  /-- The message. -/
  text : String
deriving DecidableEq, Repr

namespace Record

/-- A record for whoever runs the program. -/
def info (area : Area) (text : String) : Record := ⟨.info, area, text⟩

/-- A record for whoever looks for the cause of something. -/
def debug (area : Area) (text : String) : Record := ⟨.debug, area, text⟩

/-- A record of something that may not be wanted. -/
def warn (area : Area) (text : String) : Record := ⟨.warn, area, text⟩

/-- A message whose lines behind the first are moved to the right. -/
def indented : List Char → List Char
  | [] => []
  | c :: text => if c = '\n' then "\n    ".toList ++ indented text else c :: indented text

/-- What is shown of the message, up to the end of its last line. Nothing in it can steer a
terminal. -/
def message (r : Record) : List Char := Text.unsteered (indented r.text.toList ++ ['\n'])

/-- The record as it is shown: level and area in brackets, then the message. -/
def shown (r : Record) : String :=
  String.ofList <|
    '[' :: r.level.name.toList ++ List.replicate (6 - r.level.name.length) ' ' ++
      r.area.name.toList ++ [']', ' '] ++ r.message

end Record

/-- Something for whoever runs the program, beside its output. -/
inductive Notice where
  /-- A record of the log. -/
  | record (r : Record)
  /-- A text on lines of its own. -/
  | text (lines : String)
deriving DecidableEq, Repr

/-- The lines of a notice, with their ends. -/
def Notice.shown : Notice → String
  | record r => r.shown
  | text lines => lines ++ "\n"

end FaceAnnotator
