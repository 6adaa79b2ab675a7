import StubGen.Descriptor.Conversion
import StubGen.Proofs.Lists

/-!
# StubGen.Proofs.Resolution

What names stand for among supplied files.

1. A file declares the types at its top, by its package, and the types inside of declared types, by
   the full names of these (`DeclaredIn`).  The index of a file has a record for each of them
   (`mem_declaredAmong_iff`).
2. Of several elements that are looked up by one name, the last counts
   (`find?_reverse_eq_some_iff_isLast`).  So it does for files that declare a type of one name
   (`find?_ofFiles_eq_some_iff`), and for files of one name (`fileNamed?_eq_lastNamed?`).
-/

namespace StubGen

/-! ## Declared types -/

/-- A message type of a full name is declared among some message types in a scope, at any depth. -/
inductive DeclaredIn : (scope : String) → List MessageDescriptor → (fullName : String) → Prop
  | here {scope : String} {messages : List MessageDescriptor} {message : MessageDescriptor}
      (h : message ∈ messages) : DeclaredIn scope messages (qualify scope message.name)
  | inside {scope fullName : String} {messages : List MessageDescriptor}
      {message : MessageDescriptor} (h : message ∈ messages)
      (hnested : DeclaredIn (qualify scope message.name) message.nested fullName) :
      DeclaredIn scope messages fullName

/-- A file declares a message type of a full name. -/
def FileDescriptor.Declares (file : FileDescriptor) (fullName : String) : Prop :=
  DeclaredIn file.package file.messages fullName

/-- A type is declared right in a scope, or inside a type that is. -/
theorem declaredIn_iff {scope fullName : String} {messages : List MessageDescriptor} :
    DeclaredIn scope messages fullName ↔
      ∃ message ∈ messages, fullName = qualify scope message.name ∨
        DeclaredIn (qualify scope message.name) message.nested fullName := by
  constructor
  · intro h
    cases h with
    | here hmem => exact ⟨_, hmem, .inl rfl⟩
    | inside hmem hnested => exact ⟨_, hmem, .inr hnested⟩
  · rintro ⟨message, hmem, rfl | hnested⟩
    · exact .here hmem
    · exact .inside hmem hnested

theorem declaredIn_nil {scope fullName : String} : ¬ DeclaredIn scope [] fullName := by
  rw [declaredIn_iff]
  simp

theorem declaredIn_cons {scope fullName : String} {message : MessageDescriptor}
    {rest : List MessageDescriptor} :
    DeclaredIn scope (message :: rest) fullName ↔
      (fullName = qualify scope message.name ∨
        DeclaredIn (qualify scope message.name) message.nested fullName) ∨
          DeclaredIn scope rest fullName := by
  rw [declaredIn_iff, List.exists_mem_cons_iff, ← declaredIn_iff]

/-- The record of a type that a file declares. -/
def FileDescriptor.recordOf (file : FileDescriptor) (fullName : String) : RecordType :=
  { fullName := fullName, fileName := file.name, package := file.package }

mutual

/-- The records of a message type are those of the types that it declares. -/
theorem mem_declaredBy_iff {file : FileDescriptor} {record : RecordType} (scope : String)
    (message : MessageDescriptor) :
    record ∈ declaredBy file scope message ↔
      ∃ fullName, (fullName = qualify scope message.name ∨
        DeclaredIn (qualify scope message.name) message.nested fullName) ∧
          record = file.recordOf fullName := by
  obtain ⟨name, nested⟩ := message
  rw [declaredBy, List.mem_cons, mem_declaredAmong_iff (qualify scope name) nested]
  simp only [or_and_right, exists_or, exists_eq_left]
  rfl

/-- The types that messages declare, at any depth. -/
theorem mem_declaredAmong_iff {file : FileDescriptor} {record : RecordType} (scope : String)
    (messages : List MessageDescriptor) :
    record ∈ declaredAmong file scope messages ↔
      ∃ fullName, DeclaredIn scope messages fullName ∧ record = file.recordOf fullName := by
  cases messages with
  | nil => simp [declaredAmong, declaredIn_nil]
  | cons message rest =>
      rw [declaredAmong, List.mem_append, mem_declaredBy_iff scope message,
        mem_declaredAmong_iff scope rest]
      simp only [declaredIn_cons, or_and_right, exists_or]

end

/-! ## Resolved types -/

/-- A full name stands for the type that the last file declares under it. -/
def ResolvesTo (files : List FileDescriptor) (fullName : String) (record : RecordType) : Prop :=
  ∃ file, IsLast (FileDescriptor.Declares · fullName) files file ∧ record = file.recordOf fullName

/-- A look-up among the types of one file finds the type if the file declares it. -/
theorem find?_declaredAmong_eq_some_iff {file : FileDescriptor} {fullName : String}
    {record : RecordType} :
    TypeIndex.find? (declaredAmong file file.package file.messages) fullName = some record ↔
      file.Declares fullName ∧ record = file.recordOf fullName := by
  have hfound : ∀ {other}, TypeIndex.find? (declaredAmong file file.package file.messages) fullName
      = some other → file.Declares fullName ∧ other = file.recordOf fullName := by
    intro other h
    have hname : other.fullName = fullName := by simpa using List.find?_some h
    have hmem := List.mem_reverse.mp (List.mem_of_find?_eq_some h)
    obtain ⟨declared, hdeclared, rfl⟩ := (mem_declaredAmong_iff _ _).mp hmem
    obtain rfl : declared = fullName := hname
    exact ⟨hdeclared, rfl⟩
  constructor
  · exact hfound
  · rintro ⟨hdeclared, rfl⟩
    have hsome :
        (TypeIndex.find? (declaredAmong file file.package file.messages) fullName).isSome :=
      List.find?_isSome.mpr ⟨file.recordOf fullName,
        List.mem_reverse.mpr ((mem_declaredAmong_iff _ _).mpr ⟨fullName, hdeclared, rfl⟩),
        by simp [FileDescriptor.recordOf]⟩
    obtain ⟨other, hother⟩ := Option.isSome_iff_exists.mp hsome
    rw [hother, (hfound hother).2]

/-- A type is not found if no file declares it. -/
theorem find?_ofFiles_eq_none_iff {files : List FileDescriptor} {fullName : String} :
    (TypeIndex.ofFiles files).find? fullName = none ↔ ∀ file ∈ files, ¬ file.Declares fullName := by
  simp only [TypeIndex.find?, List.find?_eq_none, List.mem_reverse, TypeIndex.ofFiles,
    List.mem_flatMap, mem_declaredAmong_iff, beq_iff_eq]
  constructor
  · intro h file hfile hdeclares
    exact h (file.recordOf fullName) ⟨file, hfile, fullName, hdeclares, rfl⟩ rfl
  · rintro h _ ⟨file, hfile, declared, hdeclared, rfl⟩ rfl
    exact h file hfile hdeclared

/-- A look-up among the types of all files finds what the last file declares. -/
theorem find?_ofFiles_eq_some_iff {files : List FileDescriptor} {fullName : String}
    {record : RecordType} :
    (TypeIndex.ofFiles files).find? fullName = some record ↔ ResolvesTo files fullName record := by
  induction files with
  | nil => simp [TypeIndex.ofFiles, TypeIndex.find?, ResolvesTo, IsLast]
  | cons file rest ih =>
      have happend : (TypeIndex.ofFiles (file :: rest)).find? fullName =
          ((TypeIndex.ofFiles rest).find? fullName).or
            (TypeIndex.find? (declaredAmong file file.package file.messages) fullName) := by
        simp [TypeIndex.ofFiles, TypeIndex.find?]
      simp only [happend, Option.or_eq_some_iff, ih, find?_ofFiles_eq_none_iff,
        find?_declaredAmong_eq_some_iff, ResolvesTo, isLast_cons, or_and_right, exists_or,
        and_assoc, exists_eq_left]
      exact or_congr_right and_left_comm

/-! ## Files by name -/

/-- The last file of a name. -/
def lastNamed? (files : List FileDescriptor) (name : String) : Option FileDescriptor :=
  (files.filter fun file => file.name == name).getLast?

/-- Of several files with one name the last counts. -/
theorem fileNamed?_eq_lastNamed? (files : List FileDescriptor) (name : String) :
    fileNamed? files name = lastNamed? files name := by
  rw [fileNamed?, lastNamed?, List.getLast?_eq_head?_reverse, ← List.filter_reverse,
    List.head?_filter]

theorem lastNamed?_eq_none_iff {files : List FileDescriptor} {name : String} :
    lastNamed? files name = none ↔ ∀ file ∈ files, file.name ≠ name := by
  simp [lastNamed?]

theorem of_lastNamed?_eq_some {files : List FileDescriptor} {name : String} {file : FileDescriptor}
    (h : lastNamed? files name = some file) : file ∈ files ∧ file.name = name := by
  simpa using List.mem_filter.mp (List.mem_of_getLast? h)

end StubGen
