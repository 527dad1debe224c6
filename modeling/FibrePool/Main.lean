import FibrePool.Http.Exchange
import FibrePool.Operator.Serving
import Std.Time.Format

/-!
# The program

Reads the options and the files that they name, starts the operator, and tells how that ended.

The program opens no connections of its own.  While it listens, requests reach it as lines on its
standard input, and every line is answered by one on its standard output; without a gateway every
call to it fails.  Files are written as soon as they have changed.
-/

namespace FibrePool.Operator

set_option autoImplicit false

/-- What stands at a path, if it can be read. -/
def entryAt? (path : String) : IO (Option FileEntry) := do
  try
    return some (.file (← IO.FS.readFile path))
  catch failure =>
    match failure with
    | .inappropriateType _ _ _ => return some .directory
    | _ => return none

/-- Whether there is anything at a path. -/
def isThere (path : String) : IO Bool := do
  try
    let _ ← IO.FS.realPath path
    return true
  catch _ => return false

/-- Reads a file, if there is one, and takes note of the directory that it belongs into. -/
def load (directory : FilePath) (files : FileSystem) (name : String) : IO FileSystem := do
  let path := FilePath.ofText directory name
  if !(← isThere path.parent.text) then return files
  let files := files.makeDirectories path.parent
  match ← entryAt? path.text with
  | some entry => return files.put path entry
  | none => return files

/-- Reads the files that a start looks at. -/
def loadAll (directory : FilePath) (commandLine : CommandLine) : IO FileSystem := do
  match commandLine with
  | .start options =>
    let files ← options.settingsPath.toList.foldlM (load directory) {}
    let read := match options.settingsPath with
      | some path => Settings.ofFile path (files.read (FilePath.ofText directory path))
      | none => .ok {}
    match read with
    | .ok settings => (options.override settings).fileNames.foldlM (load directory) files
    | .error _ => return files
  | _ => return {}

/-- Writes the files that have changed, and takes away those that are gone. -/
def save (before files : FileSystem) : IO Unit := do
  for (path, content) in files.changedSince before do
    let temporary := (FilePath.ofText { names := [] } path).temporary.text
    IO.FS.writeFile temporary content
    IO.FS.rename temporary path
  for path in files.goneSince before do
    IO.FS.removeFile path

/-- A fresh template identity. -/
def freshStamp : IO Stamp := do
  let bytes ← IO.getRandomBytes 16
  let now ← Std.Time.Timestamp.now
  let nanos := now.toNanosecondsSinceUnixEpoch.val.toNat
  return {
    id := identifierText (bytes.toList.map UInt8.toNat)
    createdAt := (Instant.ofClock? nanos).getD default }

/-- Answers requests until there are none. -/
partial def serve (directory : FilePath) (input output : IO.FS.Stream) (serving : Serving) :
    IO Unit := do
  let line ← input.getLine
  if line ≠ "" then
    let request := Request.ofJson ((Json.ofText? line).getD .null)
    let stamp ← freshStamp
    let launch := Shell.launch serving.files directory
    let listing := serving.setup.listing launch { isUp := false }
    let (response, next) := serving.answer listing (fun _ => stamp) request
    save serving.files next.files
    output.putStrLn response.toJson.compact
    output.flush
    serve directory input output next

end FibrePool.Operator

open FibrePool FibrePool.Operator in
/-- Runs the operator. -/
def main (arguments : List String) : IO UInt32 := do
  let environment ← Options.variableNames.filterMapM fun (key, _) => do
    return (← IO.getEnv key).map fun value => (key, value)
  let commandLine := Options.read arguments environment
  let directory := FilePath.ofText { names := [] } (← IO.currentDir).toString
  let files ← loadAll directory commandLine
  let launch := Shell.launch files directory
  let started := Started.ofCommandLine files directory launch { isUp := false } commandLine
  save files started.files
  match started.report with
  | some report => IO.eprintln report
  | none => pure ()
  match started.code, started.setup with
  | none, some setup =>
    let serving : Serving := { setup, files := started.files, metrics := started.metrics }
    serve directory (← IO.getStdin) (← IO.getStdout) serving
    return 0
  | code, _ => return (code.getD 0).toUInt32
