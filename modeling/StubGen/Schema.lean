import StubGen.Keyed
import StubGen.Shape

/-!
# StubGen.Schema

The schema that stubs are written from: files with their services, the message types that methods
refer to, and the comments of every node.  Nodes are told apart by their *location*, the path of
field numbers and positions that leads to them in the compiled file:

1. the file itself is `[12]`, the place of its `syntax` statement;
2. service `s` is `[6, s]`;
3. method `m` of service `s` is `[6, s, 2, m]`.
-/

namespace StubGen

/-! ## Comments -/

/-- The place of a node in a compiled schema file. -/
abbrev Location := List Int

/-- The comments of one node: the block right above it, the block right behind it, and the blocks
above it that blank lines set apart. -/
structure NodeComments where
  leading : String := ""
  trailing : String := ""
  detached : List String := []
deriving DecidableEq, Repr

/-- The comments of a schema file by location.  The entries are in ascending order of their
locations, so there is one for each, and two indexes are equal if they have the same comments at all
locations. -/
structure CommentIndex where
  entries : List (Location × NodeComments) := []
  ascending : entries.Pairwise fun first second => first.1 < second.1 := by decide
deriving DecidableEq, Repr

namespace CommentIndex

def empty : CommentIndex := ⟨[], .nil⟩

/-- The comments of the node at a location, which are empty if it has none. -/
def get (index : CommentIndex) (location : Location) : NodeComments :=
  match index.entries.find? fun entry => entry.1 == location with
  | some entry => entry.2
  | none => {}

/-- Entries stay in order when one is put among them. -/
theorem ascending_insert (index : CommentIndex) (entry : Location × NodeComments) :
    (insertSorted true Prod.fst entry index.entries).Pairwise
      fun first second => first.1 < second.1 :=
  pairwise_insertSorted index.ascending

/-- The index with an entry in place of the one for its location. -/
def insert (index : CommentIndex) (entry : Location × NodeComments) : CommentIndex where
  entries := insertSorted true Prod.fst entry index.entries
  ascending := index.ascending_insert entry

/-- The index of some entries, of which the last for a location counts. -/
def ofList (entries : List (Location × NodeComments)) : CommentIndex :=
  entries.foldl insert empty

end CommentIndex

/-! ## Types, methods, services and files -/

/-- A message type.  Its name and the file that declares it are all that matters. -/
structure RecordType where
  fullName : String
  fileName : String
  package : String := ""
deriving DecidableEq, Repr

/-- The name of a type relative to the package of its file; nested types keep their parents. -/
def RecordType.relativeName (record : RecordType) : String :=
  let start := record.package.toList ++ ['.']
  if record.package ≠ "" ∧ start.isPrefixOf record.fullName.toList then
    String.ofList (record.fullName.toList.drop start.length)
  else record.fullName

/-- A method of a service. -/
structure Method where
  name : String
  input : RecordType
  output : RecordType
  clientStreaming : Bool := false
  serverStreaming : Bool := false
  fireAndForget : Bool := false
  location : Location := []
deriving DecidableEq, Repr

/-- The interaction model of a method. -/
def Method.shape (method : Method) : Shape :=
  Shape.classify method.clientStreaming method.serverStreaming method.fireAndForget

/-- A service with its methods in order of declaration. -/
structure Service where
  name : String
  fullName : String
  methods : List Method := []
  location : Location := []
deriving DecidableEq, Repr

/-- A schema file. -/
structure SchemaFile where
  /-- The path of the file below the schema root, such as `chat/chat.proto`. -/
  name : String
  package : String := ""
  services : List Service := []
  /-- The files that this one imports, in order of declaration. -/
  dependencies : List String := []
  /-- Whether the file declares message types of its own. -/
  hasMessages : Bool := false
  comments : CommentIndex := .empty
deriving DecidableEq, Repr

/-- The location of comments on a file as a whole. -/
def SchemaFile.location : Location := [12]

/-- The records of a list, each full name once, in order of first use. -/
def firstUses (records : List RecordType) : List RecordType :=
  records.foldl (appendNew RecordType.fullName) []

/-- The input and output types of all methods of a file, in order of first use. -/
def SchemaFile.referencedTypes (file : SchemaFile) : List RecordType :=
  firstUses (file.services.flatMap fun service =>
    service.methods.flatMap fun method => [method.input, method.output])

end StubGen
