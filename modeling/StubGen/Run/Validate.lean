import StubGen.Run.Action

/-!
# StubGen.Run.Validate

The check of generated modules by an external program.  The check fails if the program reports an
error or ends badly.
-/

namespace StubGen.Validate

/-- The number of places at which a text occurs in another. -/
def occurrences (pattern : List Char) : List Char → Nat
  | [] => if pattern.isEmpty then 1 else 0
  | c :: rest => (if pattern.isPrefixOf (c :: rest) then 1 else 0) + occurrences pattern rest

def errorCount (report : String) : Nat :=
  occurrences " error:".toList report.toList

def checkCommand (paths : List String) : List String :=
  "pyright" :: paths

/-- Record why a check failed, and fail. -/
def reject (record : String) (error : ValidationError) : Action Unit := do
  Action.note [.error record]
  Action.fail (.validation error)

/-- Check the modules at some paths. -/
def validate (paths : List String) : Action Unit := do
  if paths.isEmpty then Action.note [.warning "No stub files found to validate"]
  else
    Action.note [.info ("Validating " ++ toString paths.length ++
      " generated stub file(s) with pyright...")]
    match ← Action.start (checkCommand paths) with
    | .error (.path problem) =>
      if problem.cause = .notFound then
        reject "pyright not found. Please install pyright: pip install pyright" .missingChecker
      else Action.fail (.path problem)
    | .error (.system message) => Action.fail (.system message)
    | .error (.other message) =>
      let error := ValidationError.notStarted message
      reject error.message error
    | .ok finished =>
      let count := errorCount finished.outputText
      -- a report of errors counts whatever the status is, and the other way round
      if count > 0 || finished.status ≠ 0 then
        let error := ValidationError.failed count finished.outputText
        reject error.message error
      else Action.note [.info "Pyright validation passed - no errors found"]

end StubGen.Validate
