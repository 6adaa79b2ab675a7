import StubGen.Files.Tree

/-!
# StubGen.Program.Basic

External programs, by what they do when they are started: a command either cannot be started, or it
leaves a file system behind, an exit status and what it has written.  The first word of a command is
the program.
-/

namespace StubGen

/-- Why a command could not be started. -/
inductive LaunchError where
  /-- The program is not there, or nothing can be done with a path that it uses. -/
  | path (error : PathError)
  /-- The operating system has refused for another reason, such as a lack of memory. -/
  | system (message : String)
  /-- Starting programs failed in some other way. -/
  | other (message : String)
deriving DecidableEq, Repr

/-- Whether it was the operating system that refused to start a command. -/
def LaunchError.isSystem : LaunchError → Bool
  | .path error => error.isSystem
  | .system _ => true
  | .other _ => false

/-- How a command ended. -/
structure Finished where
  /-- The exit status; a negative one is the number of the signal that ended the command. -/
  status : Int := 0
  stdout : Bytes := []
  stderr : Bytes := []
deriving DecidableEq, Repr

def Finished.outputText (finished : Finished) : String :=
  Text.decodeUtf8 finished.stdout

def Finished.errorText (finished : Finished) : String :=
  Text.decodeUtf8 finished.stderr

/-- The programs of a site: what each command does to the file system. -/
abbrev Programs := List String → FileTree → Except LaunchError (Finished × FileTree)

/-! ## Exit statuses -/

/-- The names of the signals 1 to 31. -/
def signalNames : List String :=
  ["SIGHUP", "SIGINT", "SIGQUIT", "SIGILL", "SIGTRAP", "SIGABRT", "SIGBUS", "SIGFPE", "SIGKILL",
   "SIGUSR1", "SIGSEGV", "SIGUSR2", "SIGPIPE", "SIGALRM", "SIGTERM", "SIGSTKFLT", "SIGCHLD",
   "SIGCONT", "SIGSTOP", "SIGTSTP", "SIGTTIN", "SIGTTOU", "SIGURG", "SIGXCPU", "SIGXFSZ",
   "SIGVTALRM", "SIGPROF", "SIGWINCH", "SIGIO", "SIGPWR", "SIGSYS"]

/-- The name of a signal. -/
def signalName? (number : Nat) : Option String :=
  if number = 0 then none
  else if number = 34 then some "SIGRTMIN"
  else if number = 64 then some "SIGRTMAX"
  else signalNames[number - 1]?

/-- A command as it is shown in messages. -/
def showCommand (command : List String) : String :=
  "[" ++ ", ".intercalate (command.map Text.quoted) ++ "]"

/-- What is said about a command that ended with a status other than zero. -/
def failedCommandMessage (command : List String) (status : Int) : String :=
  let subject := "Command '" ++ showCommand command ++ "' "
  if status < 0 then
    match signalName? status.natAbs with
    | some name =>
      subject ++ "died with <Signals." ++ name ++ ": " ++ toString status.natAbs ++ ">."
    | none => subject ++ "died with unknown signal " ++ toString status.natAbs ++ "."
  else subject ++ "returned non-zero exit status " ++ toString status ++ "."

end StubGen
