import StubGen.Descriptor.Conversion
import StubGen.Program.Basic
import StubGen.Settings
import StubGen.Stub.Binding

/-!
# StubGen.Run.Action

Actions act on a file system, start programs and keep records.  An action may fail, and what it has
done until then stays done.
-/

namespace StubGen

/-! ## Failures -/

/-- Why compiled schemas could not be made. -/
inductive CompileError where
  | missingCompiler (compiler : String)
  | failed (status : Int) (report : String)
deriving DecidableEq, Repr

/-- Why generated modules did not pass their check. -/
inductive ValidationError where
  | missingChecker
  | notStarted (reason : String)
  | failed (count : Nat) (report : String)
deriving DecidableEq, Repr

/-- Why an action failed. -/
inductive Failure where
  | path (error : PathError)
  | setting (error : SettingError)
  /-- The operating system has refused to start a program, for no reason to do with a path. -/
  | system (message : String)
  /-- A program could not be started for another reason. -/
  | launch (message : String)
  /-- Compiled schemas are not well formed. -/
  | malformed
  | conversion (error : ConversionError)
  | clash (found : Stub.NameClash)
  | compile (error : CompileError)
  | validation (error : ValidationError)
deriving DecidableEq, Repr

def CompileError.message : CompileError → String
  | .missingCompiler compiler =>
    "protoc executable '" ++ compiler ++ "' not found. Please install protobuf-compiler."
  | .failed status report =>
    "protoc failed with exit code " ++ toString status ++ ":\n" ++ report

def ValidationError.message : ValidationError → String
  | .missingChecker => "pyright command not found. Please install pyright."
  | .notStarted reason => "Error running pyright: " ++ reason
  | .failed count report =>
    "Pyright validation failed with " ++ toString count ++ " error(s):\n\n" ++ report

def Failure.message : Failure → String
  | .path error => error.message
  | .setting error => error.message
  | .system message | .launch message => message
  | .malformed => "Error parsing message"
  | .conversion error => error.message
  | .clash found => found.message
  | .compile error => error.message
  | .validation error => error.message

/-- The failure of an action that cannot do without a command. -/
def Failure.ofLaunchError : LaunchError → Failure
  | .path error => .path error
  | .system message => .system message
  | .other message => .launch message

/-! ## Actions -/

/-- Where actions are done. -/
structure Site where
  workingDirectory : String
  /-- The path for a temporary file, at which there is nothing. -/
  temporaryFile : String
  /-- The path for a temporary directory, at which there is nothing. -/
  temporaryDirectory : String
  programs : Programs
  /-- The path for a temporary file comes from the operating system. -/
  hasNull_temporaryFile : hasNull temporaryFile = false := by decide

/-- What actions act on: the file system, the commands that were started and the records. -/
structure World where
  tree : FileTree := {}
  commands : List (List String) := []
  log : List LogRecord := []
deriving DecidableEq, Repr

/-- Something to be done. -/
def Action (α : Type) : Type :=
  Site → World → Except Failure α × World

namespace Action

instance : Monad Action where
  pure a := fun _ world => (.ok a, world)
  bind action next := fun site world =>
    match action site world with
    | (.ok a, world) => next a site world
    | (.error failure, world) => (.error failure, world)

-- An action that fails ends a chain wherever it stands, so it does not matter how the chain is
-- bracketed.
instance : LawfulMonad Action := LawfulMonad.mk' Action
  (fun action => by
    funext here world
    simp only [Functor.map]
    cases hresult : action here world with
    | mk result world' => cases result <;> rfl)
  (fun _ _ => rfl)
  (fun action next last => by
    funext here world
    simp only [bind]
    cases hresult : action here world with
    | mk result world' => cases result <;> rfl)

def fail (failure : Failure) : Action α :=
  fun _ world => (.error failure, world)

def site : Action Site :=
  fun site world => (.ok site, world)

def tree : Action FileTree :=
  fun _ world => (.ok world.tree, world)

def setTree (tree : FileTree) : Action Unit :=
  fun _ world => (.ok (), { world with tree := tree })

def note (records : List LogRecord) : Action Unit :=
  fun _ world => (.ok (), { world with log := world.log ++ records })

/-- Do an action and then, whether it has failed or not, change the file system. -/
def thenAlways (action : Action α) (change : Site → FileTree → FileTree) : Action α :=
  fun site world =>
    match action site world with
    | (result, world) => (result, { world with tree := change site world.tree })

/-- Go on with a result, or fail. -/
def ofExcept (failure : ε → Failure) : Except ε α → Action α
  | .ok a => pure a
  | .error error => fail (failure error)

/-! ## Doing actions -/

section

variable {here : Site} {world world' : World}

/-- After an action that succeeds, the next one is done on what it left behind. -/
theorem bind_of_ok {action : Action α} {next : α → Action β} {a : α}
    (h : action here world = (.ok a, world')) :
    (action >>= next) here world = next a here world' := by
  simp only [bind, h]

/-- After an action that fails, nothing else is done. -/
theorem bind_of_error {action : Action α} {next : α → Action β} {failure : Failure}
    (h : action here world = (.error failure, world')) :
    (action >>= next) here world = (.error failure, world') := by
  simp only [bind, h]

@[simp] theorem site_bind (next : Site → Action β) :
    (site >>= next) here world = next here here world := rfl

@[simp] theorem tree_bind (next : FileTree → Action β) :
    (tree >>= next) here world = next world.tree here world := rfl

@[simp] theorem note_bind (records : List LogRecord) (next : Unit → Action β) :
    (note records >>= next) here world =
      next () here { world with log := world.log ++ records } := rfl

@[simp] theorem pure_apply (a : α) : (pure a : Action α) here world = (.ok a, world) := rfl

@[simp] theorem ofExcept_ok (failure : ε → Failure) (a : α) :
    ofExcept failure (.ok a) here world = (.ok a, world) := rfl

@[simp] theorem ofExcept_error (failure : ε → Failure) (error : ε) :
    ofExcept failure (.error error : Except ε α) here world = (.error (failure error), world) := rfl

end

/-! ## Files -/

/-- The content of the file at a path. -/
def readFile (path : String) : Action Bytes := do
  let site ← site
  let tree ← tree
  ofExcept .path (tree.read site.workingDirectory path)

/-- Write the file at a path. -/
def writeFile (path : String) (data : Bytes) : Action Unit := do
  let site ← site
  let tree ← tree
  setTree (← ofExcept .path (tree.write site.workingDirectory path data))

/-- Remove the file at a path. -/
def removeFile (path : String) : Action Unit := do
  let site ← site
  let tree ← tree
  setTree (← ofExcept .path (tree.remove site.workingDirectory path))

/-- Make a directory and all that are missing on the way to it. -/
def makeDirectories (path : String) : Action Unit := do
  let site ← site
  let tree ← tree
  let made := tree.ensureDirectories site.workingDirectory path
  setTree made.1
  match made.2 with
  | none => pure ()
  | some problem => fail (.path problem)

/-! ## Programs -/

/-- Start a command and wait for its end. -/
def start (command : List String) : Action (Except LaunchError Finished) :=
  fun site world =>
    let world := { world with commands := world.commands ++ [command] }
    match site.programs command world.tree with
    | .error problem => (.ok (.error problem), world)
    | .ok (finished, tree) => (.ok (.ok finished), { world with tree := tree })

end Action

end StubGen
