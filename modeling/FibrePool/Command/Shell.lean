import FibrePool.Command.Format
import FibrePool.Command.Query
import FibrePool.Command.Script
import FibrePool.Store.FileSystem

/-!
# Running scripts

The meaning of scripts, and of the few programs that list devices with them.  Nothing that they do
outlives the run, so running is a function of the arguments and the files.
-/

namespace FibrePool.Shell

set_option autoImplicit false

open Script (Part Word Target Command Condition)

/-- The number of the process that runs a script, as the script sees it. -/
def processNumber : String := "4711"

/-- The state of a running script. -/
structure State where
  files : FileSystem
  directory : FilePath
  /-- The name of the script and its arguments. -/
  arguments : List String
  assigned : List (String × String) := []
  /-- How the last command ended. -/
  status : Nat := 0
  output : List Nat := []
  errors : List Nat := []
  /-- How the script was ended before its last command. -/
  ended : Option ExitStatus := none

/-- The name under which the script complains. -/
def State.name (state : State) : String := state.arguments.head?.getD ""

/-- What a command came to. -/
structure Effect where
  status : Nat := 0
  output : List Nat := []
  errors : List Nat := []
  /-- An end of the whole script. -/
  ends : Option ExitStatus := none

/-- The bytes of a text. -/
def bytes (text : String) : List Nat := Text.Utf8.encode text.toList

/-- A command that printed a line about an error. -/
def Effect.failing (status : Nat) (line : String) : Effect :=
  { status, errors := bytes (line ++ "\n") }

/-! ## Expansion -/

/-- The value of a parameter. -/
def State.valueOf (state : State) (name : String) : String :=
  match name with
  | "?" => toString state.status
  | "$" => processNumber
  | "#" => toString (state.arguments.length - 1)
  | "@" => " ".intercalate (state.arguments.drop 1)
  | "*" => " ".intercalate (state.arguments.drop 1)
  | name =>
    match Text.number? name.toList with
    | some number => state.arguments[number]?.getD ""
    | none => (state.assigned.lookup name).getD ""

/-- The pieces of a value between blanks. -/
def splitBlanks (value : String) : List String :=
  let blank (c : Char) : Char := if c == '\n' || c == '\t' then ' ' else c
  ((Text.splitAt ' ' (value.toList.map blank)).filter (!·.isEmpty)).map String.ofList

/-- Adds a text to the last field. -/
def extend (fields : List String) (text : String) : List String :=
  match fields.reverse with
  | last :: before => (before.reverse) ++ [last ++ text]
  | [] => [text]

/-- Adds several fields, the first of them to the last field so far. -/
def join (fields : List String) : List String → List String
  | [] => fields
  | first :: more => extend fields first ++ more

/-- Adds the expansion of a part to the fields of a word. -/
def State.expandPart (state : State) (fields : List String) : Part → List String
  | .literal text _ => extend fields text
  | .parameter "@" true => join fields (state.arguments.drop 1)
  | .parameter name true => extend fields (state.valueOf name)
  | .parameter name false => join fields (splitBlanks (state.valueOf name))

/-- The fields of a word. -/
def State.expand (state : State) (word : Word) : List String :=
  word.foldl state.expandPart []

/-- The text of a word that is not split. -/
def State.textOf (state : State) (word : Word) : String := String.join (state.expand word)

/-! ## Programs -/

/-- Prints files one after the other. -/
def cat (files : FileSystem) (directory : FilePath) (input : List Nat) (names : List String) :
    Effect :=
  let names := if names.isEmpty then ["-"] else names
  names.foldl (fun effect name =>
    if name = "-" then { effect with output := effect.output ++ input }
    else
      match files.read (FilePath.ofText directory name) with
      | .ok content => { effect with output := effect.output ++ bytes content }
      | .error code =>
        { effect with
          status := 1
          errors := effect.errors ++ bytes s!"cat: {name}: {Text.systemErrorText code}\n" })
    {}

/-- Prints a format. -/
def printf (words : List String) : Effect :=
  match words with
  | [] => .failing 2 "printf: usage: printf format [arg ...]"
  | format :: arguments =>
    let printed := Format.print format arguments
    { status := if printed.unfit.isEmpty then 0 else 1
      output := printed.bytes
      errors := printed.unfit.flatMap fun argument =>
        bytes s!"printf: '{argument}': expected a numeric value\n" }

/-- Prints words with blanks between them. -/
def echo (words : List String) : Effect :=
  let (isLine, words) := match words with
    | "-n" :: rest => (false, rest)
    | rest => (true, rest)
  let text := (" ".intercalate words).replace "%" "%%"
  { output := (Format.print text []).bytes ++ if isLine then [10] else [] }

/-- Whether a condition holds. -/
def test (words : List String) : Bool :=
  match words with
  | [text] => text ≠ ""
  | ["-n", text] => text ≠ ""
  | ["-z", text] => text = ""
  | ["!", text] => text = ""
  | [first, "=", second] => first = second
  | [first, "!=", second] => first ≠ second
  | [first, "-eq", second] => Format.wholeNumber? first == Format.wholeNumber? second
  | [first, "-ne", second] => Format.wholeNumber? first != Format.wholeNumber? second
  | _ => false

/-- The number of a signal. -/
def signal? (name : String) : Option Nat :=
  match Text.number? name.toList with
  | some number => some number
  | none =>
    let name := if name.startsWith "SIG" then (name.drop 3).toString else name
    (ExitStatus.signalNames.findIdx? (· == name)).map (· + 1)

/-- Sends a signal to processes; one to the script itself ends it. -/
def kill (words : List String) : Effect :=
  let (signal, processes) := match words with
    | "-s" :: name :: rest => (signal? name, rest)
    | word :: rest =>
      if word.startsWith "-" then (signal? (word.drop 1).toString, rest)
      else (some 15, word :: rest)
    | [] => (none, [])
  match signal with
  | none => .failing 2 "kill: bad signal"
  | some number =>
    if processes.contains processNumber then
      if number = 0 then {} else { ends := some (.signal number) }
    else .failing 1 "kill: No such process"

/-- Ends the script. -/
def exit (state : State) (words : List String) : Effect :=
  match words with
  | [] => { ends := some (.code state.status) }
  | word :: _ =>
    match Text.number? word.toList with
    | some number => { ends := some (.code (number % 256)) }
    | none =>
      { Effect.failing 2 (state.name ++ s!": 1: exit: Illegal number: {word}") with
        ends := some (.code 2) }

/-- The name of a program without the directory that programs are kept in. -/
def programName (word : String) : String :=
  match Text.splitAt '/' word.toList with
  | [[], ['b', 'i', 'n'], name] => String.ofList name
  | [[], ['u', 's', 'r'], ['b', 'i', 'n'], name] => String.ofList name
  | _ => word

/-- Runs a program that is not part of the shell, if there is one of that name. -/
def runProgram? (files : FileSystem) (directory : FilePath) (input : List Nat) (name : String)
    (words : List String) : Option Effect :=
  match programName name with
  | "printf" => some (printf words)
  | "echo" => some (echo words)
  | "true" => some {}
  | "false" => some { status := 1 }
  | "cat" => some (cat files directory input words)
  | "sleep" => some {}
  | _ => none

/-- Runs a command with its arguments on an input. -/
def State.runWords (state : State) (input : List Nat) : List String → Effect
  | [] => {}
  | name :: words =>
    match name with
    | ":" => {}
    | "exit" => exit state words
    | "kill" => kill words
    | "test" => { status := if test words then 0 else 1 }
    | "[" => { status := if test words.dropLast then 0 else 1 }
    | name =>
      match runProgram? state.files state.directory input name words with
      | some effect => effect
      | none => .failing 127 (state.name ++ s!": 1: {name}: not found")

/-! ## Scripts -/

/-- Where the two outputs of a command go: to one of those of the script, or nowhere. -/
abbrev Sinks := Option Nat × Option Nat

/-- The sinks after a redirection. -/
def redirect (sinks : Sinks) (number : Nat) (target : Target) : Sinks :=
  let sink := match target with
    | .output 1 => sinks.1
    | .output 2 => sinks.2
    | _ => none
  if number = 1 then (sink, sinks.2) else if number = 2 then (sinks.1, sink) else sinks

/-- What a sink takes of the outputs. -/
def taken (sink : Nat) (sinks : Sinks) (effect : Effect) : List Nat :=
  (if sinks.1 = some sink then effect.output else []) ++
    if sinks.2 = some sink then effect.errors else []

/-- The name and the value of an assignment. -/
def State.assignment? (state : State) (words : List Word) : Option (String × String) :=
  match words with
  | [.literal text false :: rest] =>
    match Text.splitOnce? '=' text.toList with
    | some (name, value) =>
      if !name.isEmpty && name.all Script.isNameChar && !name.all Char.isDigit then
        some (String.ofList name, String.ofList value ++ state.textOf rest)
      else none
    | none => none
  | _ => none

/-- Runs a simple command on an input; gives its output for the next one of a pipeline. -/
def State.runCommand (state : State) (input : List Nat) (command : Command) :
    State × List Nat :=
  match state.assignment? command.words with
  | some assignment =>
    ({ state with status := 0, assigned := assignment :: state.assigned }, [])
  | none =>
    let effect := state.runWords input (command.words.flatMap state.expand)
    let sinks := command.redirects.reverse.foldl
      (fun sinks entry => redirect sinks entry.1 entry.2) (some 1, some 2)
    ({ state with
        status := effect.status
        errors := state.errors ++ taken 2 sinks effect
        ended := effect.ends }, taken 1 sinks effect)

/-- Runs the commands of a pipeline, each on the output of the one before it.  Only the last of
several may end the script. -/
def State.runPipeline (state : State) (input : List Nat) : List Command → State
  | [] => { state with output := state.output ++ input }
  | [command] =>
    let (next, output) := state.runCommand input command
    { next with output := next.output ++ output }
  | command :: rest =>
    let (next, output) := state.runCommand input command
    { next with ended := none }.runPipeline output rest

/-- Runs pipelines until the script is ended. -/
def State.runAll (state : State) : Script.Pipelines → State
  | [] => state
  | (condition, pipeline) :: rest =>
    let isRun := match condition with
      | .always => true
      | .whenGood => state.status == 0
      | .whenBad => state.status != 0
    let next := if isRun then state.runPipeline [] pipeline else state
    match next.ended with
    | some _ => next
    | none => next.runAll rest

/-- Runs a script with its name and its arguments. -/
def runScript (files : FileSystem) (directory : FilePath) (script : String)
    (arguments : List String) : ProgramRun :=
  match Script.read? script with
  | some pipelines =>
    let state : State := { files, directory, arguments }
    let final := state.runAll pipelines
    { status := final.ended.getD (.code final.status)
      output := final.output
      errors := final.errors }
  | none =>
    { status := .code 2
      errors := bytes
        (arguments.head?.getD "" ++ ": 1: Syntax error: Unterminated quoted string\n") }

/-- Why a script cannot be opened. -/
def openFailure (code : Int) : String :=
  if code = FileEntry.errorOfMissing ∨ code = FileEntry.errorOfNoDirectory then "No such file"
  else Text.systemErrorText code

/-- Runs the shell itself. -/
def runShell (files : FileSystem) (directory : FilePath) (words : List String) : ProgramRun :=
  match words with
  | ["-c"] => { status := .code 2, errors := bytes "sh: 0: -c requires an argument\n" }
  | ["-c", script] => runScript files directory script ["sh"]
  | "-c" :: script :: arguments => runScript files directory script arguments
  | name :: arguments =>
    match files.read (FilePath.ofText directory name) with
    | .ok script => runScript files directory script (name :: arguments)
    | .error code =>
      { status := .code 2
        errors := bytes s!"sh: 0: cannot open {name}: {openFailure code}\n" }
  | [] => {}

/-- Why a file that is no program cannot be run. -/
def startFailure (files : FileSystem) (directory : FilePath) (word : String) : String :=
  if word.toList.contains '/' then
    match files.look (FilePath.ofText directory word) with
    | .ok _ => Failure.systemText 13
    | .error code => Failure.systemText code
  else if word = "." ∨ word = ".." then Failure.systemText 13
  else Failure.systemText 2

/-- Runs programs among the given files. -/
def launch (files : FileSystem) (directory : FilePath) : Launcher := fun words =>
  if words.any fun word => word.toList.contains '\x00' then
    .error "nul byte found in provided data"
  else
    match words with
    | [] => .error (Failure.systemText 2)
    | name :: arguments =>
      if programName name = "sh" then .ok (runShell files directory arguments)
      else
        match runProgram? files directory [] name arguments with
        | some effect =>
          .ok { status := .code effect.status, output := effect.output, errors := effect.errors }
        | none => .error (startFailure files directory name)

end FibrePool.Shell
