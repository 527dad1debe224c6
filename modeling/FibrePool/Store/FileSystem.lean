import FibrePool.Data.OrderedMap
import FibrePool.Failure
import FibrePool.Text.Blank

/-!
# Files

A small model of a file system: directories and text files under absolute paths.  It knows what a
path stands for, and the error number that the operating system gives for each wrong use.

A text is saved in four steps: a temporary file is created beside the target, written, flushed to
the disk and renamed over the target.  Every step may fail, and then the temporary file is removed.
-/

namespace FibrePool

set_option autoImplicit false

/-! ## Paths -/

/-- The names that lead from the root to a place. -/
structure FilePath where
  names : List String
  /-- Whether a slash or a point follows the last name, so that only a directory can be meant. -/
  asDirectory : Bool := false
  deriving DecidableEq, Repr, Inhabited

namespace FilePath

/-- The names of the place that a name leads to. -/
def enter (names : List String) (name : String) : List String :=
  match name with
  | "." => names
  | ".." => names.dropLast
  | name => names ++ [name]

/-- The place that a text leads to, seen from `base` when it does not begin at the root.  The empty
text leads to a place with no name, where nothing ever is. -/
def ofText (base : FilePath) (text : String) : FilePath :=
  let pieces := (Text.splitAt '/' text.toList).map String.ofList
  let start := if pieces.head? = some "" then [] else base.names
  if pieces = [""] then { names := base.names ++ [""] }
  else
    { names := (pieces.filter (· ≠ "")).foldl enter start
      asDirectory := pieces.getLast?.any ["", ".", ".."].contains }

/-- The absolute text of a place. -/
def text (path : FilePath) : String := "/" ++ "/".intercalate path.names

/-- The directory that holds a place. -/
def parent (path : FilePath) : FilePath := { names := path.names.dropLast }

/-- A file name with its extension replaced by `tmp`.  A point at the front begins no extension. -/
def temporaryName (name : String) : String :=
  match (Text.splitAt '.' name.toList).reverse with
  | _ :: stem :: more =>
    if more.isEmpty && stem.isEmpty then name ++ ".tmp"
    else ".".intercalate ((stem :: more).reverse.map String.ofList) ++ ".tmp"
  | _ => name ++ ".tmp"

/-- The temporary file of a place. -/
def temporary (path : FilePath) : FilePath :=
  match path.names.getLast? with
  | none => path
  | some "" => path
  | some name => { names := path.names.dropLast ++ [temporaryName name] }

end FilePath

/-! ## Directories and files -/

/-- What stands at a path. -/
inductive FileEntry where
  | directory
  | file (content : String)
  deriving DecidableEq, Repr, Inhabited

/-- The error number of a path where nothing is. -/
def FileEntry.errorOfMissing : Int := 2

/-- The error number of a path through a file. -/
def FileEntry.errorOfNoDirectory : Int := 20

/-- The error number of a directory that is used as a file. -/
def FileEntry.errorOfDirectory : Int := 21

/-- Directories and files by the text of their paths.  The root is always there. -/
structure FileSystem where
  entries : OrderedMap String FileEntry := ∅
  deriving DecidableEq, Inhabited

namespace FileSystem

/-- What stands at a path, its directories not looked at. -/
def entry? (files : FileSystem) (path : FilePath) : Option FileEntry :=
  match path.names.getLast? with
  | none => some .directory
  | some "" => none
  | some _ => files.entries.get? path.text

/-- Follows the directories on the way from a place. -/
def walk (files : FileSystem) (place : FilePath) : List String → Except Int FilePath
  | [] => .ok place
  | name :: rest =>
    match files.entry? place with
    | some .directory => files.walk { names := place.names ++ [name] } rest
    | some (.file _) => .error FileEntry.errorOfNoDirectory
    | none => .error FileEntry.errorOfMissing

/-- What stands at a path. -/
def look (files : FileSystem) (path : FilePath) : Except Int FileEntry := do
  let place ← files.walk { names := [] } path.names
  match files.entry? place with
  | some .directory => return .directory
  | some (.file content) =>
    if path.asDirectory then throw FileEntry.errorOfNoDirectory
    return .file content
  | none => throw FileEntry.errorOfMissing

/-- Whether anything stands at a path. -/
def isThere (files : FileSystem) (path : FilePath) : Bool :=
  match files.look path with
  | .ok _ => true
  | .error _ => false

/-- The content of a file. -/
def read (files : FileSystem) (path : FilePath) : Except Int String := do
  match ← files.look path with
  | .file content => return content
  | .directory => throw FileEntry.errorOfDirectory

/-- Puts an entry at a path, whatever stood there. -/
def put (files : FileSystem) (path : FilePath) (entry : FileEntry) : FileSystem :=
  { files with entries := files.entries.insert path.text entry }

/-- Takes the entry at a path away. -/
def remove (files : FileSystem) (path : FilePath) : FileSystem :=
  { files with entries := files.entries.erase path.text }

/-- Makes a directory. -/
def makeDirectory (files : FileSystem) (path : FilePath) : FileSystem := files.put path .directory

/-- Makes a directory with those on the way to it, as far as they are missing. -/
def makeDirectories (files : FileSystem) (path : FilePath) : FileSystem :=
  (List.range path.names.length).foldl (fun files count =>
    let directory : FilePath := { names := path.names.take (count + 1) }
    if files.isThere directory then files else files.makeDirectory directory) files

/-- Takes a directory away with all that it holds. -/
def removeAll (files : FileSystem) (path : FilePath) : FileSystem :=
  let inside := (path.text ++ "/").toList
  { files with entries := files.entries.filter fun key _ =>
      key != path.text && !inside.isPrefixOf key.toList }

/-- The names in a directory, in ascending order. -/
def namesIn (files : FileSystem) (directory : FilePath) : List String :=
  let inside := (directory.text ++ "/").toList
  files.entries.keys.filterMap fun key =>
    if inside.isPrefixOf key.toList then
      let name := key.toList.drop inside.length
      if name.contains '/' then none else some (String.ofList name)
    else none

/-- Makes a file with a content, or gives an old file this content. -/
def write (files : FileSystem) (path : FilePath) (content : String) : Except Int FileSystem := do
  match path.names.getLast? with
  | none => throw FileEntry.errorOfDirectory
  | some "" => throw FileEntry.errorOfMissing
  | some _ => pure ()
  match ← files.look path.parent with
  | .file _ => throw FileEntry.errorOfNoDirectory
  | .directory => pure ()
  if path.asDirectory then throw FileEntry.errorOfDirectory
  match files.entry? path with
  | some .directory => throw FileEntry.errorOfDirectory
  | _ => return files.put path (.file content)

/-- Renames a file, over a file that stands in its way. -/
def rename (files : FileSystem) (path target : FilePath) : Except Int FileSystem := do
  let content ← files.read path
  if target.asDirectory then throw FileEntry.errorOfNoDirectory
  match files.entry? target with
  | some .directory => throw FileEntry.errorOfDirectory
  | _ => return (files.remove path).put target (.file content)

/-- The paths and contents of the files that are not as they were. -/
def changedSince (files before : FileSystem) : List (String × String) :=
  files.entries.entries.filterMap fun (path, entry) =>
    match entry with
    | .file content =>
      if before.entries.get? path = some entry then none else some (path, content)
    | .directory => none

/-- The paths of the files that were there before and are gone. -/
def goneSince (files before : FileSystem) : List String :=
  before.entries.entries.filterMap fun (path, entry) =>
    match entry with
    | .file _ => if files.entries.contains path then none else some path
    | .directory => none

end FileSystem

/-! ## Saving -/

/-- The steps of a save. -/
inductive SaveStep where
  | create
  | write
  | flush
  | rename
  deriving DecidableEq, Repr

/-- A step of a save that fails although the file system allows it. -/
structure SaveFault where
  step : SaveStep
  code : Int
  /-- What a failing step of writing has written by then. -/
  written : String := ""
  deriving DecidableEq, Repr

namespace FileSystem

/-- Stops a save, with the given files, when its fault is at this step. -/
def mayFail (fault : Option SaveFault) (step : SaveStep) (files : FileSystem) :
    Except (Int × FileSystem) Unit :=
  match fault with
  | some fault => if fault.step = step then .error (fault.code, files) else .ok ()
  | none => .ok ()

/-- The error of a step that left the files as they were. -/
def unchanged {α : Type} (files : FileSystem) : Except Int α → Except (Int × FileSystem) α
  | .ok value => .ok value
  | .error code => .error (code, files)

/-- The steps of a save up to the first that fails. -/
def saveSteps (files : FileSystem) (fault : Option SaveFault) (target : FilePath)
    (content : String) : Except (Int × FileSystem) FileSystem := do
  let temporary := target.temporary
  mayFail fault .create files
  let created ← unchanged files (files.write temporary "")
  let partly := match fault with
    | some fault => created.put temporary (.file fault.written)
    | none => created
  mayFail fault .write partly
  let written := created.put temporary (.file content)
  mayFail fault .flush written
  mayFail fault .rename written
  unchanged written (written.rename temporary target)

/-- Saves a text to a file; says which error stopped it, and what the files are then. -/
def save (files : FileSystem) (fault : Option SaveFault) (target : FilePath) (content : String) :
    Outcome Unit × FileSystem :=
  match files.saveSteps fault target content with
  | .ok saved => (.ok (), saved)
  | .error (code, files) =>
    match files.entry? target.temporary with
    | some (.file _) => (.error (.system code), files.remove target.temporary)
    | _ => (.error (.system code), files)

end FileSystem

end FibrePool
