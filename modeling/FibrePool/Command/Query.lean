import FibrePool.Failure
import FibrePool.Text.Blank
import FibrePool.Text.Utf8

/-!
# Listing devices by a program

The listing of the devices may come from a local program, which is told the target as its last
argument.  Its output counts only when it ends well and prints text.
-/

namespace FibrePool

set_option autoImplicit false

/-- How a program ended. -/
inductive ExitStatus where
  | code (number : Nat)
  | signal (number : Nat)
  deriving DecidableEq, Repr, Inhabited

namespace ExitStatus

/-- The names of the signals that end a program, from the first on. -/
def signalNames : List String :=
  ["HUP", "INT", "QUIT", "ILL", "TRAP", "ABRT", "BUS", "FPE", "KILL", "USR1", "SEGV", "USR2",
    "PIPE", "ALRM", "TERM", "STKFLT", "CHLD", "CONT", "STOP", "TSTP", "TTIN", "TTOU", "URG",
    "XCPU", "XFSZ", "VTALRM", "PROF", "WINCH", "IO", "PWR", "SYS"]

/-- How an end is told. -/
def text : ExitStatus → String
  | code number => s!"exit status: {number}"
  | signal number =>
    match if number = 0 then none else signalNames[number - 1]? with
    | some name => s!"signal: {number} (SIG{name})"
    | none => s!"signal: {number}"

end ExitStatus

/-- What a program did. -/
structure ProgramRun where
  status : ExitStatus := .code 0
  /-- The bytes that it printed. -/
  output : List Nat := []
  /-- The bytes that it printed about errors. -/
  errors : List Nat := []
  deriving DecidableEq, Repr, Inhabited

/-- A way to run a program with its arguments; it may say why the program cannot be started. -/
abbrev Launcher := List String → Except String ProgramRun

namespace ProgramRun

/-- The output of a program that ended well. -/
def outputText (run : ProgramRun) (program : String) : Outcome String :=
  if run.status = .code 0 then
    match Text.Utf8.decode run.output with
    | .ok text => .ok text
    | .error fault => .error (.internal s!"device query output is not UTF-8: {fault.message}")
  else
    let errors := Text.trimmed (Text.Utf8.decodeLossy run.errors)
    .error (.ofStep "query_fcp_devices" s!"{program} exited with {run.status.text}: {errors}")

end ProgramRun

/-- The listing of a target by a program with its first arguments. -/
def listByProgram (launch : Launcher) (words : List String) (target : String) : Outcome String :=
  match words with
  | [] => .error (.configuration "hardware query command must not be empty")
  | program :: arguments =>
    match launch (program :: arguments ++ [target]) with
    | .ok run => run.outputText program
    | .error reason => .error (.ofStep "query_fcp_devices" s!"{program}: {reason}")

end FibrePool
