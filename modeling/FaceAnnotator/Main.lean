import FaceAnnotator.CommandLine.Run
/-!
# FaceAnnotator.Main

**The command on a machine**: files, console and clock are those of the process.
-/

namespace FaceAnnotator

/-- The number and the text that the system gives for an error. -/
def systemCode : IO.Error → Option (UInt32 × String)
  | .alreadyExists _ code text => some (code, text)
  | .otherError code text => some (code, text)
  | .resourceBusy code text => some (code, text)
  | .resourceVanished code text => some (code, text)
  | .unsupportedOperation code text => some (code, text)
  | .hardwareFault code text => some (code, text)
  | .unsatisfiedConstraints code text => some (code, text)
  | .illegalOperation code text => some (code, text)
  | .protocolError code text => some (code, text)
  | .timeExpired code text => some (code, text)
  | .interrupted _ code text => some (code, text)
  | .noFileOrDirectory _ code text => some (code, text)
  | .invalidArgument _ code text => some (code, text)
  | .permissionDenied _ code text => some (code, text)
  | .resourceExhausted _ code text => some (code, text)
  | .inappropriateType _ code text => some (code, text)
  | .noSuchThing _ code text => some (code, text)
  | .unexpectedEof => none
  | .userError _ => none

/-- The cause of an error. -/
def systemError (e : IO.Error) : SystemError :=
  match systemCode e with
  | none => .other (toString e)
  | some (code, text) =>
    if code = 2 then .noEntry
    else if code = 17 then .alreadyExists
    else if code = 20 then .notDirectory
    else if code = 21 then .isDirectory
    else if code = 36 then .nameTooLong
    else if code = 40 then .tooManyLinks
    else .other s!"{text} (os error {code})"

/-- Does something and catches what goes wrong. -/
def attempt {α : Type} (action : IO α) : IO (Except SystemError α) :=
  try
    let a ← action
    pure (.ok a)
  catch e => pure (.error (systemError e))

/-- Stores bytes and catches what goes wrong. -/
def attemptWrite (action : IO Unit) : IO (Except Refusal Unit) := do
  match ← attempt action with
  | .ok _ => pure (.ok ())
  | .error cause => pure (.error ⟨cause, []⟩)

/-- The surroundings of the process. -/
def processHost : Host IO IO.FS.Handle where
  workingDirectory := do
    match ← attempt IO.currentDir with
    | .ok place => pure (some (Path.mk place.toString).segments)
    | .error _ => pure none
  canonicalize path := do
    let found ← attempt (IO.FS.realPath path.text)
    pure (found.map fun place => (Path.mk place.toString).segments)
  pathExists path := do
    if path.isOverlong then pure false
    else pure (← attempt (IO.FS.realPath path.text)).isOk
  isDirectory path := do
    if path.isOverlong then pure false
    else
      match ← attempt (IO.FS.realPath path.text) with
      | .ok place => place.isDir
      | .error _ => pure false
  contents path := do
    let found ← attempt (IO.FS.readBinFile path.text)
    pure (found.map ByteArray.toList)
  makeDirectory path := attempt (IO.FS.createDir path.text)
  createFile path := attempt (IO.FS.Handle.mk path.text .write)
  writeFile handle bytes := do
    let outcome ← attemptWrite do
      handle.write bytes.toByteArray
      handle.flush
    pure (outcome, handle)
  writeConsole bytes := attemptWrite do
    let console ← IO.getStdout
    console.write bytes.toByteArray
    console.flush
  report notice := IO.eprint notice.shown
  now := IO.monoNanosNow

end FaceAnnotator

/-- Runs the command. What the log shows is said by a variable of the surroundings. -/
def main (arguments : List String) : IO UInt32 := do
  let filter ← IO.getEnv "RUST_LOG"
  FaceAnnotator.CommandLine.main FaceAnnotator.processHost filter arguments
