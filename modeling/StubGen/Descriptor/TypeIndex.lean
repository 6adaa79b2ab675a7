import StubGen.Descriptor.Basic
import StubGen.Import

/-!
# StubGen.Descriptor.TypeIndex

The message types that a list of compiled files declares, at any depth, by full name.  A type is
named by its package, the types around it and itself, with dots between; a type comes before the
types inside it.  Of several types with one name the last counts.
-/

namespace StubGen

/-- A name inside a scope, which may be empty. -/
def qualify (scope name : String) : String :=
  if scope = "" then name else scope ++ "." ++ name

/-- The declared types, in order of declaration. -/
abbrev TypeIndex := List RecordType

mutual

/-- A message type of a file, declared in a scope, and the types inside it. -/
def declaredBy (file : FileDescriptor) (scope : String) : MessageDescriptor → TypeIndex
  | ⟨name, nested⟩ =>
    { fullName := qualify scope name, fileName := file.name, package := file.package } ::
      declaredAmong file (qualify scope name) nested

/-- Message types of a file, declared in a scope, and the types inside them. -/
def declaredAmong (file : FileDescriptor) (scope : String) : List MessageDescriptor → TypeIndex
  | [] => []
  | message :: rest => declaredBy file scope message ++ declaredAmong file scope rest

end

namespace TypeIndex

def ofFiles (files : List FileDescriptor) : TypeIndex :=
  files.flatMap fun file => declaredAmong file file.package file.messages

/-- The type of a full name. -/
def find? (index : TypeIndex) (fullName : String) : Option RecordType :=
  index.reverse.find? fun record => record.fullName == fullName

/-- The types that count, in ascending order of their names. -/
def toSorted (index : TypeIndex) : List RecordType :=
  (ascending (index.map RecordType.fullName)).filterMap index.find?

end TypeIndex

end StubGen
