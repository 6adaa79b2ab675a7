import StubGen.CommandLine.Help
import StubGen.Files.Changes
import StubGen.Plugin
import StubGen.Run.Session

/-!
# StubGen.Main

The program.  Called by the name that the schema compiler gives to its plugins, it answers a request
on standard input.  Called by any other name, it does what its command line asks for: the files
below the working directory and those that the command line names are read, the session is done on
them, and what has changed is written back.  No other program is started from here: each is treated
as missing.
-/

namespace StubGen.Program

/-! ## Files -/

/-- A file system with what is at an entry of a directory, and below it.  Links are left out. -/
partial def addEntry (tree : FileTree) (entry : IO.FS.DirEntry) : IO FileTree := do
  let place := Path.place "/" entry.path.toString
  match (← entry.path.symlinkMetadata).type with
  | .file =>
    let data ← IO.FS.readBinFile entry.path
    return tree.put place (.file data.toList)
  | .dir => (← entry.path.readDir).foldlM addEntry (tree.put place .directory)
  | _ => return tree

/-- A file system with the file that a word names, if it names one. -/
def addNamed (here : String) (tree : FileTree) (word : String) : IO FileTree := do
  match ← (IO.FS.readBinFile (Path.join here word)).toBaseIO with
  | .ok data => return tree.putDeep (Path.place here word) (.file data.toList)
  | .error _ => return tree

/-- The working directory, with the files below it and those that some words name. -/
def readFiles (words : List String) : IO (String × FileTree) := do
  let directory ← IO.currentDir
  let here := directory.toString
  let tree := ({} : FileTree).putDeep (Path.place "/" here) .directory
  let tree ← (← directory.readDir).foldlM addEntry tree
  return (here, ← words.foldlM (addNamed here) tree)

def pathOf (place : Place) : String :=
  "/" ++ "/".intercalate place

/-- Make changes to the files. -/
def applyChanges (changes : Changes) : IO Unit := do
  for place in changes.removed do
    IO.FS.removeFile (pathOf place)
  for place in changes.directories do
    IO.FS.createDirAll (pathOf place)
  for (place, data) in changes.written do
    IO.FS.writeBinFile (pathOf place) (ByteArray.mk data.toArray)

/-! ## Sessions -/

/-- Show the records of at least some importance. -/
def showLog (least : LogLevel) (log : List LogRecord) : IO Unit :=
  for entry in recordsFrom least log do
    IO.eprintln (entry.level.name ++ ": " ++ entry.message)

/-- Programs of which none is there. -/
def missingPrograms : Programs :=
  fun command _ => .error (.path ⟨.notFound, command.headD ""⟩)

/-- Show how a session ended.  The result is the exit status. -/
def showEnding : Except Failure Run.Ending → IO UInt32
  | .ok .done => return 0
  | .ok (.stopped .help) => do
    IO.print CommandLine.helpText
    return 0
  | .ok (.stopped (.usage problem)) => do
    IO.eprintln ("\n".intercalate CommandLine.usageLines)
    IO.eprintln ("rsocket-rpc-stub-generator: error: " ++ problem.message)
    return 2
  | .error failure => do
    IO.eprintln failure.message
    return 1

/-- Do what a command line asks for. -/
def runSession (words : List String) : IO UInt32 := do
  let (here, tree) ← readFiles words
  let site : Site :=
    { workingDirectory := here, temporaryFile := "/stubgen-temporary.py"
      temporaryDirectory := "/stubgen-temporary", programs := missingPrograms }
  let (ending, world) := Run.session words site { tree := tree }
  applyChanges (tree.changes world.tree)
  showLog .info world.log
  showEnding ending

/-! ## The plugin -/

/-- All bytes that are left on a stream. -/
partial def readAll (stream : IO.FS.Stream) (before : Bytes) : IO Bytes := do
  let chunk ← stream.read 65536
  if chunk.isEmpty then return before else readAll stream (before ++ chunk.toList)

/-- Answer a request of the schema compiler. -/
def runPlugin : IO UInt32 := do
  let request ← readAll (← IO.getStdin) []
  match Plugin.reply? request with
  | none =>
    IO.eprintln Failure.malformed.message
    return 1
  | some reply =>
    showLog .warning reply.log
    let output ← IO.getStdout
    output.write (ByteArray.mk reply.output.toArray)
    output.flush
    return reply.status

/-- The name by which the schema compiler calls the plugin. -/
def pluginName : String := "protoc-gen-rsocket-rpc-python"

end StubGen.Program

/-- Answer a request as the plugin, or do what the command line asks for. -/
def main (words : List String) : IO UInt32 := do
  if (← IO.appPath).fileName = some StubGen.Program.pluginName then StubGen.Program.runPlugin
  else StubGen.Program.runSession words
