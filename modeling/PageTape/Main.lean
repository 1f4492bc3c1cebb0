import PageTape.Command.Run

/-!
The program: the arguments, the environment and the files are read, and what the command comes to is
printed and written.
-/

open PageTape

/-- What stands at a path on the disk. -/
def findOnDisk (path : String) : IO Files.Found := do
  try
    return .text (← IO.FS.readFile path)
  catch
    | .noFileOrDirectory .. => return .nothing
    | _ => return .folder

/-- The files at some paths on the disk, as a folder. -/
def folderOnDisk (paths : List String) : IO Files.Folder := do
  let found ← paths.mapM fun path => return (path, ← findOnDisk path)
  return fun path => (found.lookup path).getD .nothing

/-- The variables of the environment that have values, among those that are looked at. -/
def environment : IO (List (String × String)) := do
  let names := Recorder.Config.responseVariable :: Recorder.Config.timeVariables.map (·.1)
  let values ← names.mapM fun name => return (← IO.getEnv name).map fun value => (name, value)
  return values.filterMap id

/-- Writes a file, with the folders that it stands in. -/
def writeToDisk (file : String × String) : IO Unit := do
  IO.FS.createDirAll (Files.parent file.1)
  IO.FS.writeFile file.1 file.2

/-- Runs the command that the arguments ask for. -/
def main (args : List String) : IO UInt32 := do
  let (config, warnings) := Recorder.Config.ofEnv (← environment)
  let folder ← folderOnDisk ((Command.request? args).map (·.paths)).toList.flatten
  let outcome := Command.run folder config args
  for warning in warnings do
    IO.eprintln warning.message
  match outcome.written with
  | some file => writeToDisk file
  | none => pure ()
  IO.print outcome.printed
  IO.eprint outcome.reported
  if outcome == .usage then IO.eprint Command.usageText
  return UInt32.ofNat outcome.exitCode
