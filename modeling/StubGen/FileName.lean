import StubGen.Text.Alphanumeric
import StubGen.Text.Digit

/-!
# StubGen.FileName

Names of schema files, and the names that are read off them.  A schema file name is a path below
some root, with `/` as separator, such as `chat/chat.proto`.

1. The *stem* is the name without its schema suffix: `.protodevel` if it has that, else `.proto`.
2. The *message module* is the module that the schema compiler writes for the file: the last path
   component of the stem with `_` for `-`, and `_pb2`.
3. The *stub file* is the file that this library writes: the stem and `_pb2_rsocket.py`.
4. The *alias* is the one identifier by which generated code refers to the message module: in the
   stem every underscore is doubled, `/` and `.` become `_dot_`, `-` becomes `_dash_`, and any other
   character that cannot stand in an identifier becomes `_`; a leading digit gets an underscore in
   front; the marker `__pb2` ends it.
5. *Well-known* files lie below `google/protobuf/` and ship with the runtime.
-/

namespace StubGen.FileName

open Text

/-! ## The stem -/

/-- The suffixes of schema files, in the order in which they are tried. -/
def schemaSuffixes : List String :=
  [".protodevel", ".proto"]

def hasSchemaSuffix (name : String) : Bool :=
  schemaSuffixes.any fun suffix => suffix.toList.isSuffixOf name.toList

/-- Characters without the given ending, which is dropped if they have it. -/
def dropEnding (ending cs : List Char) : List Char :=
  cs.take (cs.length - ending.length)

/-- The name of a schema file without its suffix. -/
def stem (name : String) : String :=
  match schemaSuffixes.find? fun suffix => suffix.toList.isSuffixOf name.toList with
  | some suffix => String.ofList (dropEnding suffix.toList name.toList)
  | none => name

/-! ## Directories -/

def components (name : String) : List (List Char) :=
  name.toList.splitOn '/'

def baseChars (name : String) : List Char :=
  (components name).getLastD []

def directoryComponents (name : String) : List (List Char) :=
  (components name).dropLast

/-! ## Modules -/

/-- The module that holds the messages of a schema file, without its package. -/
def messageModule (name : String) : String :=
  String.ofList ((baseChars (stem name)).map fun c => if c = '-' then '_' else c) ++ "_pb2"

/-- The stub file of a schema file, relative to the output root. -/
def stubFile (name : String) : String :=
  stem name ++ "_pb2_rsocket.py"

/-- Whether a schema file ships with the runtime. -/
def isWellKnown (name : String) : Bool :=
  "google/protobuf/".toList.isPrefixOf name.toList

/-! ## The alias -/

/-- What a character of a stem becomes inside an alias. -/
def aliasChar (c : Char) : List Char :=
  if c = '_' then "__".toList
  else if c = '/' || c = '.' then "_dot_".toList
  else if c = '-' then "_dash_".toList
  else if isWordChar c then [c]
  else ['_']

/-- Characters with an underscore in front, if they start with a digit. -/
def guardDigit : List Char → List Char
  | [] => []
  | c :: rest => if isDigitChar c then '_' :: c :: rest else c :: rest

/-- The alias of the message module of a schema file. -/
def moduleAlias (name : String) : String :=
  String.ofList (guardDigit ((stem name).toList.flatMap aliasChar)) ++ "__pb2"

end StubGen.FileName
