import FaceAnnotator.Log
import FaceAnnotator.Pattern.Compiled
import FaceAnnotator.Pattern.Matching
import FaceAnnotator.Text.Blank
import FaceAnnotator.Text.Split
/-!
# FaceAnnotator.CommandLine.Filter

**Which records of the log are shown.**

A filter is written as a list of *directives* between commas. A directive is a level, which holds
for all areas, or the beginning of the name of an area, alone or with a level behind an equals sign.
The directive with the longest name that fits an area decides about its records. What is behind a
slash is a pattern that must occur in the message. Without any directive only errors are shown.
-/

namespace FaceAnnotator.CommandLine

/-- What is shown of some areas. -/
structure Directive where
  /-- How the names of the areas begin; none if the directive is about all of them. -/
  area : Option (List Char)
  /-- The least urgent level that is shown; none if nothing is. -/
  level : Option Level
deriving DecidableEq, Repr

/-- What is shown of the log. -/
structure Filter where
  directives : List Directive := []
  /-- What must occur in the message. -/
  pattern : Option Pattern := none
deriving Repr

namespace Directive

/-- The beginning of a name that a directive asks for. -/
def start (d : Directive) : List Char := d.area.getD []

/-- Puts a directive behind others, or in the place of the one that is about the same areas. -/
def putInto (d : Directive) : List Directive → List Directive
  | [] => [d]
  | other :: others => if other.area = d.area then d :: others else other :: d.putInto others

end Directive

namespace Filter

/-- Whether two texts differ at most in the case of their Latin letters. -/
def sameWord (text : List Char) (word : String) : Bool :=
  text.map Char.toUpper == word.toList

/-- The level that a text names, if it names one; `some none` is no level at all. -/
def readLevel (text : List Char) : Option (Option Level) :=
  if sameWord text "OFF" then some none
  else (Level.all.find? fun level => sameWord text level.name).map some

/-- Reads a directive. -/
def readDirective (text : List Char) : Except String Directive :=
  match Text.splitAt '=' text with
  | [word] =>
    match readLevel word with
    | some level => .ok ⟨none, level⟩
    | none => .ok ⟨some word, some .trace⟩
  | [area, word] =>
    let word := Text.trim word
    if word.isEmpty then .ok ⟨some area, some .trace⟩
    else
      match readLevel word with
      | some level => .ok ⟨some area, level⟩
      | none => .error (String.ofList word)
  | _ => .error (String.ofList text)

/-- Reads directives and gathers what cannot be read. -/
def readDirectives : List (List Char) → List Directive × List String
  | [] => ([], [])
  | text :: rest =>
    let (directives, wrong) := readDirectives rest
    let text := Text.trim text
    if text.isEmpty then (directives, wrong)
    else
      match readDirective text with
      | .ok d => (d :: directives, wrong)
      | .error w => (directives, w :: wrong)

/-- What is said about a part of a filter that cannot be read. -/
def warning (wrong : String) : String :=
  s!"warning: invalid logging spec '{wrong}', ignoring it"

/-- What is said about a filter with more than one slash. -/
def slashWarning (spec : String) : String :=
  s!"warning: invalid logging spec '{spec}' (too many '/'s), ignoring it"

/-- What is said about a pattern that cannot be used. -/
def patternWarning (text : List Char) (cause : Pattern.Objection) : String :=
  s!"warning: invalid regex filter - {cause.message text}, ignoring it"

/-- Reads the directives of a filter, and tells which of them cannot be read. -/
def ofList (list : List Char) : Filter × List String :=
  let (directives, wrong) := readDirectives (Text.splitAt ',' list)
  ({ directives := directives.foldl (fun placed d => d.putInto placed) [] }, wrong.map warning)

/-- Reads a filter, and tells what in it cannot be read. -/
def parse (spec : String) : Filter × List String :=
  match Text.splitAt '/' spec.toList with
  | [list] => ofList list
  | [list, pattern] =>
    let (f, warnings) := ofList list
    match Pattern.ofText pattern with
    | .ok p => ({ f with pattern := some p }, warnings)
    | .error cause => (f, warnings ++ [patternWarning pattern cause])
  | _ => ({}, [slashWarning spec])

/-- The directive that decides about an area: of two that are equally long, the later one. -/
def decisive (area : List Char) (directives : List Directive) : Option Directive :=
  directives.foldl
    (fun best d =>
      if d.start.isPrefixOf area then
        match best with
        | none => some d
        -- Both fit the same area, so the longer one says more about it.
        | some other => if other.start.length ≤ d.start.length then some d else best
      else best)
    none

/-- Whether records of a level are shown up to another level. -/
def reaches (limit : Option Level) (level : Level) : Bool :=
  match limit with
  | none => false
  | some limit => decide (level.rank ≤ limit.rank)

/-- Whether a record is shown. -/
def shows (f : Filter) (r : Record) : Bool :=
  let limit :=
    if f.directives.isEmpty then some .error
    else (decisive r.area.name.toList f.directives).bind Directive.level
  reaches limit r.level && f.pattern.all (·.occursIn r.text.toList)

end Filter

end FaceAnnotator.CommandLine
