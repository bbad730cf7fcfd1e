import Std.Time
import TestImpact.CommandLine.Perform

/-! The program on the machine's own files. -/
namespace TestImpact.Machine

/-- Show an event on the standard error. -/
def display (e : Event) : IO Unit := do (← IO.getStderr).putStrLn e.shownLine

/-- The result of an action, if it does not fail. -/
def attempt (a : IO α) : IO (Option α) := do
  try return some (← a) catch _ => return none

/-- The present moment in universal time. -/
def now : IO String := do
  let moment := Std.Time.DateTime.ofTimestamp (← Std.Time.Timestamp.now) .UTC
  return moment.format "uuuu-MM-dd'T'HH:mm:ss.SSSSSSSSS'Z'"

def regularNames (path : String) : IO (List String) := do
  let here ← IO.currentDir
  let inner ← (here / path).walkDir
  let mut names := []
  for file in inner do
    if (← file.symlinkMetadata).type matches .file then
      names := names ++ file.fileName.toList
  return names

/-- The machine's own files, seen from the current directory. -/
@[reducible] def store (verbose : Bool) : FileStore (ExceptT Error IO) where
  isFile path := do
    let here ← IO.currentDir
    return ((← attempt (here / path).metadata).map (·.type matches .file)).getD false
  isDirectory path := do
    let here ← IO.currentDir
    (here / path).isDir
  read path := attempt (IO.FS.readBinFile path)
  makeDirectories path := do return (← attempt (IO.FS.createDirAll path)).isSome
  write path bytes := do return (← attempt (IO.FS.writeBinFile path bytes)).isSome
  remove path := do
    match ← (IO.FS.removeFile path).toBaseIO with
    | .ok _ => return none
    | .error e => return some (toString e)
  fileNames path := do return (← attempt (regularNames path)).getD []
  holder? path := do
    let real ← attempt (IO.FS.realPath path)
    return (real.bind (·.parent)).bind (·.fileName)
  tell e := do if e.isShown verbose then display e
  clock := now

def perform (i : Invocation) : IO (Except Error String) :=
  letI := store i.verbose
  (i.perform : ExceptT Error IO String).run

end TestImpact.Machine

open TestImpact in
def main (words : List String) : IO UInt32 := do
  let exit ← match CommandLine.parse words with
    | .error stop => pure (Exit.ofStop stop)
    | .ok invocation => pure (Exit.ofResult (← Machine.perform invocation))
  IO.print exit.output
  IO.eprint (exit.errorOutput [])
  return exit.code.toUInt32
