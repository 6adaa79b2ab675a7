import StubGen.CommandLine.Parse
import StubGen.Run.Basic

/-!
# StubGen.Run.Session

A session: a command line is read and, if it makes settings, a run is done with them.
-/

namespace StubGen.Run

/-- How a session ends. -/
inductive Ending where
  | done
  /-- The command line asked for help or could not be read. -/
  | stopped (stop : CommandLine.Stop)
deriving DecidableEq, Repr

/-- Do what a command line asks for. -/
def session (words : List String) : Action Ending := do
  let site ← Action.site
  Action.note [.info ("Working from root directory: " ++ site.workingDirectory)]
  match CommandLine.parse words with
  | .error stop => return .stopped stop
  | .ok options =>
    run (.ofOptions options)
    return .done

end StubGen.Run
