import StubGen.Proofs.Resolution
import StubGen.Stub.Binding

/-!
# StubGen.Proofs.TypeNames

Which names the type index holds, and what each of them stands for.

1. A message type lies at a position, the numbers of the types around it and its own, and has a
   path, their names (`LiesAt`).  Positions are in lexicographic order, so that a type comes before
   the types inside it, and these before the next type.
2. The index goes through all files in that order (`pairwise_declarations`) and names each type by
   its package and its path (`ofFiles_eq_map_record`), if no type is nameless.
3. Hence a name stands for the declaration with the highest position (`isLast_declarations_iff`).
   Dropping the package from a full name gives back the path, whatever the path is made of
   (`relativeName_record`).
-/

namespace StubGen

/-! ## Positions -/

/-- A message type lies at a position among message types, and has a path there: its own number and
name come last, those of the types around it before. -/
inductive LiesAt : List MessageDescriptor → (position : List Nat) → (path : List String) → Prop
  | here {messages : List MessageDescriptor} {message : MessageDescriptor} {number : Nat}
      (h : messages[number]? = some message) : LiesAt messages [number] [message.name]
  | inside {messages : List MessageDescriptor} {message : MessageDescriptor} {number : Nat}
      {position : List Nat} {path : List String} (h : messages[number]? = some message)
      (hnested : LiesAt message.nested position path) :
      LiesAt messages (number :: position) (message.name :: path)

/-- A position comes before another: depth first, and a type before the types inside it. -/
def Precedes (first second : List Nat) : Prop :=
  List.Lex (fun a b : Nat => a < b) first second

/-- Of two positions one comes first at most. -/
theorem Precedes.asymm {first second : List Nat} (h : Precedes first second) :
    ¬ Precedes second first :=
  List.lex_asymm (fun hlt => Nat.not_lt_of_gt hlt) h

/-- The position and the path of a message type, or of a type inside it, behind its own number. -/
def MessageDescriptor.HasAt (message : MessageDescriptor) (position : List Nat)
    (path : List String) : Prop :=
  (position = [] ∧ path = [message.name]) ∨
    ∃ inner, path = message.name :: inner ∧ LiesAt message.nested position inner

/-- A type lies at a position if it lies inside the type at the first number, or is that type. -/
theorem liesAt_cons_iff {messages : List MessageDescriptor} {number : Nat} {position : List Nat}
    {path : List String} :
    LiesAt messages (number :: position) path ↔
      ∃ message, messages[number]? = some message ∧ message.HasAt position path := by
  constructor
  · intro h
    cases h with
    | here hmessage => exact ⟨_, hmessage, .inl ⟨rfl, rfl⟩⟩
    | inside hmessage hnested => exact ⟨_, hmessage, .inr ⟨_, rfl, hnested⟩⟩
  · rintro ⟨message, hmessage, ⟨rfl, rfl⟩ | ⟨inner, rfl, hnested⟩⟩
    · exact .here hmessage
    · exact .inside hmessage hnested

theorem LiesAt.exists_cons {messages : List MessageDescriptor} {position : List Nat}
    {path : List String} (h : LiesAt messages position path) :
    ∃ number rest, position = number :: rest := by
  cases h <;> exact ⟨_, _, rfl⟩

/-- A type has at least its own name in its path. -/
theorem LiesAt.path_ne_nil {messages : List MessageDescriptor} {position : List Nat}
    {path : List String} (h : LiesAt messages position path) : path ≠ [] := by
  cases h <;> simp

/-! ## All message types in order -/

mutual

/-- A message type with its number and the types inside it, each with its position and its path. -/
def locatedBy (number : Nat) : MessageDescriptor → List (List Nat × List String)
  | ⟨name, nested⟩ =>
    ([number], [name]) ::
      (locatedAmong 0 nested).map fun entry => (number :: entry.1, name :: entry.2)

/-- Message types from a number on and the types inside them, each with its position and path. -/
def locatedAmong (number : Nat) : List MessageDescriptor → List (List Nat × List String)
  | [] => []
  | message :: rest => locatedBy number message ++ locatedAmong (number + 1) rest

end

mutual

/-- The types of a message are that type and those inside it. -/
theorem mem_locatedBy_iff {entry : List Nat × List String} (number : Nat)
    (message : MessageDescriptor) :
    entry ∈ locatedBy number message ↔
      ∃ position, entry.1 = number :: position ∧ message.HasAt position entry.2 := by
  obtain ⟨name, nested⟩ := message
  obtain ⟨position, path⟩ := entry
  simp only [locatedBy, List.mem_cons, Prod.mk.injEq, List.mem_map, Prod.exists,
    mem_locatedAmong_iff 0 nested, Nat.zero_add, MessageDescriptor.HasAt]
  constructor
  · rintro (⟨rfl, rfl⟩ | ⟨_, inner, ⟨first, rest, rfl, hnested⟩, rfl, rfl⟩)
    · exact ⟨[], rfl, .inl ⟨rfl, rfl⟩⟩
    · exact ⟨first :: rest, rfl, .inr ⟨inner, rfl, hnested⟩⟩
  · rintro ⟨rest, rfl, ⟨rfl, rfl⟩ | ⟨inner, rfl, hnested⟩⟩
    · exact .inl ⟨rfl, rfl⟩
    · obtain ⟨first, others, rfl⟩ := hnested.exists_cons
      exact .inr ⟨_, inner, ⟨first, others, rfl, hnested⟩, rfl, rfl⟩

/-- The types among messages, at any depth, have positions that count from the start. -/
theorem mem_locatedAmong_iff {entry : List Nat × List String} (start : Nat)
    (messages : List MessageDescriptor) :
    entry ∈ locatedAmong start messages ↔
      ∃ number position, entry.1 = (start + number) :: position ∧
        LiesAt messages (number :: position) entry.2 := by
  cases messages with
  | nil => simp [locatedAmong, liesAt_cons_iff]
  | cons message rest =>
      simp only [locatedAmong, List.mem_append, mem_locatedBy_iff start message,
        mem_locatedAmong_iff (start + 1) rest, liesAt_cons_iff]
      constructor
      · rintro (⟨position, hentry, hhas⟩ | ⟨number, position, hentry, found, hfound, hhas⟩)
        · exact ⟨0, position, hentry, message, rfl, hhas⟩
        · exact ⟨number + 1, position, by rw [hentry, Nat.add_right_comm, Nat.add_assoc], found,
            hfound, hhas⟩
      · rintro ⟨number, position, hentry, found, hfound, hhas⟩
        cases number with
        | zero =>
            obtain rfl : message = found := Option.some.inj hfound
            exact .inl ⟨position, hentry, hhas⟩
        | succ number =>
            exact .inr ⟨number, position, by rw [hentry, Nat.add_right_comm, Nat.add_assoc],
              found, hfound, hhas⟩

end

/-- All message types are gone through. -/
theorem mem_locatedAmong_zero_iff {entry : List Nat × List String}
    {messages : List MessageDescriptor} :
    entry ∈ locatedAmong 0 messages ↔ LiesAt messages entry.1 entry.2 := by
  simp only [mem_locatedAmong_iff, Nat.zero_add]
  constructor
  · rintro ⟨number, position, hentry, h⟩
    rwa [hentry]
  · intro h
    obtain ⟨number, position, hentry⟩ := h.exists_cons
    exact ⟨number, position, hentry, hentry ▸ h⟩

mutual

/-- The types of a message are listed in the order of their positions. -/
theorem pairwise_locatedBy (number : Nat) (message : MessageDescriptor) :
    (locatedBy number message).Pairwise fun first second => Precedes first.1 second.1 := by
  obtain ⟨name, nested⟩ := message
  rw [locatedBy, List.pairwise_cons, List.pairwise_map]
  refine ⟨?_, (pairwise_locatedAmong 0 nested).imp fun h => .cons h⟩
  intro entry hentry
  obtain ⟨inner, hinner, rfl⟩ := List.mem_map.mp hentry
  obtain ⟨first, rest, hposition⟩ := (mem_locatedAmong_zero_iff.mp hinner).exists_cons
  rw [hposition]
  exact .cons .nil

/-- Message types are gone through in the order of their positions. -/
theorem pairwise_locatedAmong (number : Nat) (messages : List MessageDescriptor) :
    (locatedAmong number messages).Pairwise fun first second => Precedes first.1 second.1 := by
  cases messages with
  | nil => simp [locatedAmong]
  | cons message rest =>
      rw [locatedAmong, List.pairwise_append]
      refine ⟨pairwise_locatedBy number message, pairwise_locatedAmong (number + 1) rest, ?_⟩
      intro first hfirst second hsecond
      obtain ⟨position, hposition, _⟩ := (mem_locatedBy_iff number message).mp hfirst
      obtain ⟨later, other, hother, _⟩ := (mem_locatedAmong_iff (number + 1) rest).mp hsecond
      rw [hposition, hother]
      exact .rel (by omega)

end

/-! ## Declarations -/

/-- A message type that a file declares, with its position and its path.  The position starts with
the number of the file. -/
structure Declaration where
  file : FileDescriptor
  position : List Nat
  path : List String

/-- The names of a path with dots between. -/
def dottedPath (path : List String) : String :=
  ".".intercalate path

/-- A path behind a scope, which may be empty. -/
def scopedPath (scope : String) (path : List String) : String :=
  dottedPath (if scope = "" then path else scope :: path)

namespace Declaration

/-- The full name of a declared type: the package, if there is one, and the path. -/
def fullName (declaration : Declaration) : String :=
  scopedPath declaration.file.package declaration.path

/-- The record of a declared type. -/
def record (declaration : Declaration) : RecordType :=
  declaration.file.recordOf declaration.fullName

/-- A declaration that is among those of some files. -/
def IsAmong (files : List FileDescriptor) (declaration : Declaration) : Prop :=
  ∃ number position, declaration.position = number :: position ∧
    files[number]? = some declaration.file ∧
      LiesAt declaration.file.messages position declaration.path

end Declaration

/-- The declarations of some files in the order of their positions. -/
def declarations (files : List FileDescriptor) : List Declaration :=
  files.zipIdx.flatMap fun source =>
    (locatedAmong 0 source.1.messages).map fun entry =>
      ⟨source.1, source.2 :: entry.1, entry.2⟩

/-- The declarations that are listed are those of the files. -/
theorem mem_declarations_iff {files : List FileDescriptor} {declaration : Declaration} :
    declaration ∈ declarations files ↔ declaration.IsAmong files := by
  simp only [declarations, List.mem_flatMap, Prod.exists, List.mk_mem_zipIdx_iff_getElem?,
    List.mem_map, mem_locatedAmong_zero_iff, Declaration.IsAmong]
  constructor
  · rintro ⟨file, number, hfile, position, path, hlies, rfl⟩
    exact ⟨number, position, rfl, hfile, hlies⟩
  · obtain ⟨file, _, path⟩ := declaration
    rintro ⟨number, position, rfl, hfile, hlies⟩
    exact ⟨file, number, hfile, position, path, hlies, rfl⟩

/-- Declarations are listed in the order of their positions. -/
theorem pairwise_declarations (files : List FileDescriptor) :
    (declarations files).Pairwise fun first second =>
      Precedes first.position second.position := by
  have hnumbers : files.zipIdx.Pairwise fun first second => first.2 < second.2 := by
    rw [← List.pairwise_map (f := Prod.snd) (R := fun a b : Nat => a < b), List.zipIdx_map_snd]
    exact List.pairwise_lt_range'
  rw [declarations, List.pairwise_flatMap]
  refine ⟨fun source _ => ?_, hnumbers.imp fun hlt => ?_⟩
  · rw [List.pairwise_map]
    exact (pairwise_locatedAmong 0 source.1.messages).imp fun h => .cons h
  · intro first hfirst second hsecond
    obtain ⟨_, _, rfl⟩ := List.mem_map.mp hfirst
    obtain ⟨_, _, rfl⟩ := List.mem_map.mp hsecond
    exact .rel hlt

/-- Among elements in order of position, the last with a property has the highest position. -/
theorem isLast_iff_of_pairwise {p : α → Prop} {position : α → List Nat} {elements : List α}
    (h : elements.Pairwise fun first second => Precedes (position first) (position second))
    {element : α} :
    IsLast p elements element ↔ element ∈ elements ∧ p element ∧
      ∀ other ∈ elements, p other → ¬ Precedes (position element) (position other) := by
  constructor
  · rintro ⟨helement, before, after, rfl, hafter⟩
    refine ⟨by simp, helement, fun other hother hp hprecedes => ?_⟩
    obtain ⟨_, _, hbefore⟩ := List.pairwise_append.mp h
    rcases List.mem_append.mp hother with hmem | hmem
    · exact (hbefore other hmem element List.mem_cons_self).asymm hprecedes
    · rcases List.mem_cons.mp hmem with rfl | hmem
      · exact hprecedes.asymm hprecedes
      · exact hafter other hmem hp
  · rintro ⟨hmem, helement, hhighest⟩
    obtain ⟨before, after, rfl⟩ := List.append_of_mem hmem
    refine ⟨helement, before, after, rfl, fun later hlater hp => ?_⟩
    have hprecedes := (List.pairwise_cons.mp (List.pairwise_append.mp h).2.1).1 later hlater
    exact hhighest later (by simp [hlater]) hp hprecedes

/-! ## The names of declared types -/

/-- A file whose message types all have names. -/
def FileDescriptor.HasNamedTypes (file : FileDescriptor) : Prop :=
  ∀ position path, LiesAt file.messages position path → "" ∉ path

/-- It is enough to look at the types that are listed. -/
theorem FileDescriptor.hasNamedTypes_iff {file : FileDescriptor} :
    file.HasNamedTypes ↔ ∀ entry ∈ locatedAmong 0 file.messages, "" ∉ entry.2 := by
  simp only [FileDescriptor.HasNamedTypes, mem_locatedAmong_zero_iff, Prod.forall]

instance (file : FileDescriptor) : Decidable file.HasNamedTypes :=
  decidable_of_iff _ FileDescriptor.hasNamedTypes_iff.symm

theorem scopedPath_singleton (scope name : String) :
    scopedPath scope [name] = qualify scope name := by
  unfold scopedPath dottedPath qualify
  split <;> simp

/-- A name may be part of the scope or of the path. -/
theorem scopedPath_qualify {name : String} (hname : name ≠ "") (scope : String)
    (path : List String) :
    scopedPath (qualify scope name) path = scopedPath scope (name :: path) := by
  unfold scopedPath dottedPath qualify
  by_cases hscope : scope = ""
  · simp [hscope, hname]
  · simp [hscope, hname]

mutual

/-- The types that a message declares are those that lie in it, under their full names. -/
theorem declaredBy_eq_map {file : FileDescriptor} (scope : String) (number : Nat)
    (message : MessageDescriptor)
    (h : ∀ entry ∈ locatedBy number message, "" ∉ entry.2) :
    declaredBy file scope message =
      (locatedBy number message).map fun entry => file.recordOf (scopedPath scope entry.2) := by
  obtain ⟨name, nested⟩ := message
  rw [locatedBy, List.forall_mem_cons, List.forall_mem_map] at h
  have hname : name ≠ "" := by
    rintro rfl
    exact h.1 List.mem_cons_self
  have hnested : ∀ entry ∈ locatedAmong 0 nested, "" ∉ entry.2 := by
    intro entry hentry hempty
    exact h.2 entry hentry (List.mem_cons_of_mem _ hempty)
  rw [declaredBy, declaredAmong_eq_map (qualify scope name) 0 nested hnested, locatedBy]
  simp only [List.map_cons, List.map_map, scopedPath_singleton, scopedPath_qualify hname]
  rfl

/-- The types that messages declare are those that lie among them, under their full names. -/
theorem declaredAmong_eq_map {file : FileDescriptor} (scope : String) (number : Nat)
    (messages : List MessageDescriptor)
    (h : ∀ entry ∈ locatedAmong number messages, "" ∉ entry.2) :
    declaredAmong file scope messages =
      (locatedAmong number messages).map fun entry => file.recordOf (scopedPath scope entry.2) := by
  cases messages with
  | nil => simp [declaredAmong, locatedAmong]
  | cons message rest =>
      rw [locatedAmong, List.forall_mem_append] at h
      rw [declaredAmong, locatedAmong, List.map_append, declaredBy_eq_map scope number message h.1,
        declaredAmong_eq_map scope (number + 1) rest h.2]

end

/-- The index has the records of all declarations in order. -/
theorem ofFiles_eq_map_record {files : List FileDescriptor}
    (h : ∀ file ∈ files, file.HasNamedTypes) :
    TypeIndex.ofFiles files = (declarations files).map Declaration.record := by
  rw [TypeIndex.ofFiles, ← flatMap_zipIdx, declarations, List.map_flatMap]
  apply List.flatMap_congr
  intro source hsource
  have hfile : source.1 ∈ files := List.mem_of_getElem? (List.mem_zipIdx_iff_getElem?.mp hsource)
  rw [List.map_map]
  exact declaredAmong_eq_map source.1.package 0 source.1.messages
    (FileDescriptor.hasNamedTypes_iff.mp (h source.1 hfile))

/-- Dropping the package from the full name of a declared type gives its path. -/
theorem relativeName_record {declaration : Declaration} (h : declaration.path ≠ []) :
    declaration.record.relativeName = dottedPath declaration.path := by
  unfold RecordType.relativeName Declaration.record FileDescriptor.recordOf Declaration.fullName
  by_cases hpackage : declaration.file.package = ""
  · simp [hpackage, scopedPath]
  · have hname : scopedPath declaration.file.package declaration.path =
        declaration.file.package ++ "." ++ dottedPath declaration.path := by
      rw [scopedPath, if_neg hpackage]
      exact String.intercalate_cons_of_ne_nil h
    simp [hpackage, hname]

/-! ## The index -/

/-- The last declaration of a full name: none of that name has a higher position. -/
structure Declaration.IsLastOf (files : List FileDescriptor) (fullName : String)
    (declaration : Declaration) : Prop where
  among : declaration.IsAmong files
  named : declaration.fullName = fullName
  last : ∀ other : Declaration, other.IsAmong files → other.fullName = fullName →
    ¬ Precedes declaration.position other.position

/-- The last declaration in the list is the one with the highest position. -/
theorem isLast_declarations_iff {files : List FileDescriptor} {fullName : String}
    {declaration : Declaration} :
    IsLast (fun other => other.fullName = fullName) (declarations files) declaration ↔
      declaration.IsLastOf files fullName := by
  rw [isLast_iff_of_pairwise (pairwise_declarations files)]
  simp only [mem_declarations_iff]
  exact ⟨fun ⟨hamong, hnamed, hlast⟩ => ⟨hamong, hnamed, hlast⟩,
    fun h => ⟨h.among, h.named, h.last⟩⟩

/-- A full name stands for its last declaration. -/
theorem find?_ofFiles_eq_some_iff_isLastOf {files : List FileDescriptor}
    (h : ∀ file ∈ files, file.HasNamedTypes) {fullName : String} {record : RecordType} :
    (TypeIndex.ofFiles files).find? fullName = some record ↔
      ∃ declaration : Declaration,
        declaration.IsLastOf files fullName ∧ record = declaration.record := by
  rw [TypeIndex.find?, ofFiles_eq_map_record h, ← List.map_reverse, List.find?_map,
    Option.map_eq_some_iff]
  simp only [find?_reverse_eq_some_iff_isLast, Function.comp_apply, beq_iff_eq]
  simp only [← isLast_declarations_iff, eq_comm (a := record)]
  rfl

/-- **The type index is complete, and the names in it tell paths.**  Its names are those of all
message types of all files, each the package and the path of the type with dots between.  The record
of a name is that of the last declaration, in the order of the files and depth first in each of
them.  The name relative to its package is the path of the type, whichever names the package and the
path share, and generated code refers to the type by that path. -/
theorem type_index_complete {files : List FileDescriptor}
    (h : ∀ file ∈ files, file.HasNamedTypes) (fullName : String) :
    ((∃ record, (TypeIndex.ofFiles files).find? fullName = some record) ↔
      ∃ declaration : Declaration,
        declaration.IsAmong files ∧ declaration.fullName = fullName) ∧
    ∀ record, (TypeIndex.ofFiles files).find? fullName = some record →
      ∃ declaration : Declaration, declaration.IsLastOf files fullName ∧
        record = ⟨fullName, declaration.file.name, declaration.file.package⟩ ∧
        record.relativeName = dottedPath declaration.path ∧
        Stub.typeReference record =
          FileName.moduleAlias declaration.file.name ++ "." ++ dottedPath declaration.path := by
  constructor
  · rw [← Option.isSome_iff_exists, TypeIndex.find?, List.find?_isSome, ofFiles_eq_map_record h]
    simp only [List.mem_reverse, List.mem_map, mem_declarations_iff, beq_iff_eq,
      exists_exists_and_eq_and]
    rfl
  · intro record hfind
    obtain ⟨declaration, hlast, rfl⟩ := (find?_ofFiles_eq_some_iff_isLastOf h).mp hfind
    obtain ⟨_, _, _, _, hlies⟩ := hlast.among
    have hrelative := relativeName_record hlies.path_ne_nil
    refine ⟨declaration, hlast, ?_, hrelative, ?_⟩
    · rw [← hlast.named]
      rfl
    · rw [Stub.typeReference, hrelative]
      rfl

/-- A file whose package and message types share their names. -/
def echoingFile : FileDescriptor where
  name := "echoing.proto"
  package := "a.b"
  messages := [⟨"a", [⟨"b", [⟨"c", []⟩]⟩]⟩, ⟨"b", []⟩]

/-- A file with types that have the same full names, in a shorter package. -/
def overlappingFile : FileDescriptor where
  name := "deep/overlapping.proto"
  package := "a"
  messages := [⟨"b", [⟨"a", [⟨"b", []⟩]⟩]⟩]

/-- The inner type of both files is that of the latter file, by its path there.  The type inside it
is that of the former file. -/
theorem type_index_complete_overlapping :
    (∃ declaration : Declaration,
      declaration.IsLastOf [echoingFile, overlappingFile] "a.b.a.b" ∧
        declaration.file.name = "deep/overlapping.proto" ∧
        dottedPath declaration.path = "b.a.b") ∧
    (∃ declaration : Declaration,
      declaration.IsLastOf [echoingFile, overlappingFile] "a.b.a.b.c" ∧
        declaration.file.name = "echoing.proto" ∧ dottedPath declaration.path = "a.b.c") ∧
    ¬ ∃ declaration : Declaration,
      declaration.IsAmong [echoingFile, overlappingFile] ∧ declaration.fullName = "a.b.c" := by
  have hnamed : ∀ file ∈ [echoingFile, overlappingFile], file.HasNamedTypes := by decide
  refine ⟨?_, ?_, ?_⟩
  · obtain ⟨declaration, hlast, hrecord, hrelative, _⟩ :=
      (type_index_complete hnamed "a.b.a.b").2 ⟨"a.b.a.b", "deep/overlapping.proto", "a"⟩
        (by decide)
    exact ⟨declaration, hlast, (RecordType.mk.inj hrecord).2.1.symm, hrelative.symm⟩
  · obtain ⟨declaration, hlast, hrecord, hrelative, _⟩ :=
      (type_index_complete hnamed "a.b.a.b.c").2 ⟨"a.b.a.b.c", "echoing.proto", "a.b"⟩ (by decide)
    exact ⟨declaration, hlast, (RecordType.mk.inj hrecord).2.1.symm, hrelative.symm⟩
  · rw [← (type_index_complete hnamed "a.b.c").1]
    rintro ⟨record, hfind⟩
    have hnone : (TypeIndex.ofFiles [echoingFile, overlappingFile]).find? "a.b.c" = none := by
      decide
    rw [hfind] at hnone
    contradiction

end StubGen
