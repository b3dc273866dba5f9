import LiveForm.Command.Run

/-!
# The program

Reads the files that a command line names, runs it, and writes what comes of it. The log is opened before
the form is read, and a log that cannot be opened is passed over. Each diagnostic has the time of its own at which
it was taken down (`Session.note`).
-/

namespace LiveForm.Program

open Command

/-- The fault of a file that could not be read. -/
def faultOf : IO.Error → FileFault
  | .noFileOrDirectory _ _ _ => .missing
  | .inappropriateType _ code _ => if code = 20 then .underFile else .isDirectory
  | _ => .notText

def readText (path : String) : IO (Except FileFault String) := do
  try return .ok (← IO.FS.readFile path)
  catch e => return .error (faultOf e)

/-- A text added at the end of a file, if the file can be opened. -/
def append (path text : String) : IO Unit := do
  try
    let file ← IO.FS.Handle.mk path .append
    file.putStr text
  catch _ => return

/-- The configuration of a command line. -/
def configOf (line : CommandLine) : IO Config := do
  let config := match ← readText (line.config.getD Config.defaultPath) with
    | .ok source => Config.read source
    | .error _ => {}
  return config.override line

/-- The time in milliseconds since the start of 1970, as a file that is made now says it. -/
def fileTime : IO Nat := do
  let (_, path) ← IO.FS.createTempFile
  let made := (← path.metadata).modified
  IO.FS.removeFile path
  return made.sec.toNat * 1000 + made.nsec.toNat / 1000000

/-- A clock that is set by the time of a file and goes on with the steady one. -/
def startClock : IO (IO Nat) := do
  let set ← fileTime
  let start ← IO.monoMsNow
  return do return set + ((← IO.monoMsNow) - start)

def runLine (line : CommandLine) : IO Outcome := do
  let config ← configOf line
  config.logFile.forM (append · "")
  let now ← startClock
  let form ← readText line.command.form
  let o ← line.perform now (.reached HttpRequest.unanswered) config form
  config.logFile.forM (append · (o.logText 0))
  return o

end LiveForm.Program

open LiveForm LiveForm.Command in
def main (words : List String) : IO UInt32 := do
  let o ← match CommandLine.ofWords words with
    | .ok line => Program.runLine line
    | .error e => pure (Outcome.ofUsage e)
  IO.print o.output
  o.notices.forM IO.eprintln
  return o.exitCode.toUInt32
