import StubGen.Program.Basic

/-!
# StubGen.Program.Script

Programs whose behaviour is written down beforehand, so that a run can be played through without any
of them.  A script has an entry per program, or per program and first argument, which comes first.
A program without an entry does not exist.
-/

namespace StubGen.Script

/-- How a start is refused. -/
inductive Refusal where
  | permission
  | other (message : String)
deriving DecidableEq, Repr

/-- What a program does. -/
structure Behaviour where
  /-- Whether the program cannot even be started. -/
  refusal : Option Refusal := none
  /-- A text to add to the file that the last argument names. -/
  append : Option String := none
  /-- What to write to the file that the option for compiled schemas names. -/
  descriptors : Option Bytes := none
  finished : Finished := {}
deriving DecidableEq, Repr

/-- The option that names the file for compiled schemas. -/
def descriptorOption : String := "--descriptor_set_out="

/-- The file for compiled schemas that a command names. -/
def descriptorPath? (command : List String) : Option String :=
  command.findSome? fun word =>
    if descriptorOption.toList.isPrefixOf word.toList then
      some (String.ofList (word.toList.drop descriptorOption.length))
    else none

/-- Add a text to the file at a path. -/
def appendTo (workingDirectory path text : String) (tree : FileTree) : Except PathError FileTree :=
  let before := match tree.read workingDirectory path with
    | .ok data => data
    | .error _ => []
  tree.write workingDirectory path (before ++ Text.encodeUtf8 text)

/-- What a behaviour makes of a file system. -/
def Behaviour.effect (behaviour : Behaviour) (workingDirectory : String) (command : List String)
    (tree : FileTree) : Except PathError FileTree :=
  let appended := match behaviour.append with
    | some text => appendTo workingDirectory (command.getLastD "") text tree
    | none => .ok tree
  match appended with
  | .error problem => .error problem
  | .ok tree =>
    match behaviour.descriptors, descriptorPath? command with
    | some data, some path => tree.write workingDirectory path data
    | _, _ => .ok tree

/-- Play a command. -/
def Behaviour.play (behaviour : Behaviour) (workingDirectory : String) (command : List String)
    (tree : FileTree) : Except LaunchError (Finished × FileTree) :=
  match behaviour.refusal with
  | some .permission => .error (.path ⟨.permissionDenied, command.headD ""⟩)
  | some (.other message) => .error (.other message)
  | none =>
    match behaviour.effect workingDirectory command tree with
    | .error problem => .error (.path problem)
    | .ok tree => .ok (behaviour.finished, tree)

/-- The entry of a script for a command. -/
def entry? (script : List (String × Behaviour)) (command : List String) : Option Behaviour :=
  let named (key : String) := (script.find? fun entry => entry.1 == key).map Prod.snd
  match command with
  | program :: argument :: _ => (named (program ++ " " ++ argument)).or (named program)
  | [program] => named program
  | [] => none

/-- The programs of a script. -/
def programs (script : List (String × Behaviour)) (workingDirectory : String) : Programs :=
  fun command tree =>
    match entry? script command with
    | some behaviour => behaviour.play workingDirectory command tree
    | none => .error (.path ⟨.notFound, command.headD ""⟩)

end StubGen.Script
