import StubGen.Descriptor.Conversion
import StubGen.Proofs.Lists

/-!
# StubGen.Proofs.Conversion

What is known of schemas that were converted from compiled files.  Conversion goes down from files
to services to methods and fails as a whole when any part of it fails, so every part of a converted
schema was converted on its own (`mapM_eq_ok_iff`).

All types of a run are looked up in one index, by full name.  The full name of a type thus
determines the type (`eq_of_fullName_of_schemaFiles`), although nothing in a schema says so.
-/

namespace StubGen

/-! ## Types -/

/-- Types that are found in an index by their full names. -/
def TypeIndex.Holds (index : TypeIndex) (record : RecordType) : Prop :=
  index.find? record.fullName = some record

/-- A full name belongs to one type of an index. -/
theorem TypeIndex.Holds.eq_of_fullName {index : TypeIndex} {first second : RecordType}
    (hfirst : index.Holds first) (hsecond : index.Holds second)
    (h : first.fullName = second.fullName) : first = second := by
  unfold TypeIndex.Holds at hfirst hsecond
  rw [h, hsecond] at hfirst
  exact (Option.some.inj hfirst).symm

/-- A type that is found is held. -/
theorem holds_of_find? {index : TypeIndex} {name : String} {record : RecordType}
    (h : index.find? name = some record) : index.Holds record := by
  have hname : record.fullName = name := by simpa using List.find?_some h
  rwa [TypeIndex.Holds, hname]

/-- A name is resolved to a type that is held. -/
theorem holds_of_resolveType {index : TypeIndex} {name : String} {record : RecordType}
    (h : resolveType index name = .ok record) : index.Holds record := by
  unfold resolveType at h
  cases hfind : index.find? (bareTypeName name) with
  | none => simp [hfind] at h
  | some found =>
      simp only [hfind, Except.ok.injEq] at h
      exact holds_of_find? (h ▸ hfind)

/-- The types of the methods of a file. -/
def SchemaFile.methodTypes (file : SchemaFile) : List RecordType :=
  file.services.flatMap fun service =>
    service.methods.flatMap fun method => [method.input, method.output]

/-- The types of a method are among those of its file. -/
theorem mem_methodTypes {file : SchemaFile} {service : Service} {method : Method}
    (hservice : service ∈ file.services) (hmethod : method ∈ service.methods) :
    method.input ∈ file.methodTypes ∧ method.output ∈ file.methodTypes := by
  have hmem : ∀ record ∈ [method.input, method.output], record ∈ file.methodTypes :=
    fun record hrecord => List.mem_flatMap.mpr
      ⟨service, hservice, List.mem_flatMap.mpr ⟨method, hmethod, hrecord⟩⟩
  exact ⟨hmem _ (by simp), hmem _ (by simp)⟩

/-- Both types of a converted method are held. -/
theorem holds_of_convertMethod {index : TypeIndex} {position : Nat}
    {entry : MethodDescriptor × Nat} {method : Method}
    (h : convertMethod index position entry = .ok method) :
    index.Holds method.input ∧ index.Holds method.output := by
  simp only [convertMethod, bind_eq_ok_iff] at h
  obtain ⟨input, hinput, output, houtput, _, _, hmethod⟩ := h
  rw [← Except.ok.inj hmethod]
  exact ⟨holds_of_resolveType hinput, holds_of_resolveType houtput⟩

/-- The types of a converted file are those of the index. -/
theorem holds_of_convertFile {index : TypeIndex} {descriptor : FileDescriptor} {file : SchemaFile}
    (h : convertFile index descriptor = .ok file) :
    ∀ record ∈ file.methodTypes, index.Holds record := by
  simp only [convertFile, bind_eq_ok_iff] at h
  obtain ⟨services, hservices, hfile⟩ := h
  rw [← Except.ok.inj hfile]
  intro record hrecord
  simp only [SchemaFile.methodTypes, List.mem_flatMap] at hrecord
  obtain ⟨service, hservice, method, hmethod, htype⟩ := hrecord
  obtain ⟨_, _, hconvert⟩ := exists_of_mem_mapM hservices hservice
  simp only [convertService, bind_eq_ok_iff] at hconvert
  obtain ⟨methods, hmethods, hresult⟩ := hconvert
  rw [← Except.ok.inj hresult] at hmethod
  obtain ⟨_, _, hmethodOk⟩ := exists_of_mem_mapM hmethods hmethod
  obtain ⟨hinput, houtput⟩ := holds_of_convertMethod hmethodOk
  simp only [List.mem_cons, List.not_mem_nil, or_false] at htype
  rcases htype with rfl | rfl
  · exact hinput
  · exact houtput

/-- Every selected file is the conversion of a supplied one. -/
theorem exists_of_mem_schemaFiles {files : List FileDescriptor} {selected : Option (List String)}
    {schemas : List SchemaFile} (h : schemaFiles files selected = .ok schemas) {file : SchemaFile}
    (hfile : file ∈ schemas) :
    ∃ descriptor ∈ files, convertFile (TypeIndex.ofFiles files) descriptor = .ok file := by
  obtain ⟨name, _, hname⟩ := exists_of_mem_mapM h hfile
  unfold convertNamed at hname
  cases hfind : fileNamed? files name with
  | none => simp [hfind] at hname
  | some descriptor =>
      simp only [hfind] at hname
      exact ⟨descriptor, List.mem_reverse.mp (List.mem_of_find?_eq_some hfind), hname⟩

/-- The full names of the types in a converted file determine the types. -/
theorem eq_of_fullName_of_schemaFiles {files : List FileDescriptor}
    {selected : Option (List String)} {schemas : List SchemaFile}
    (h : schemaFiles files selected = .ok schemas) {file : SchemaFile} (hfile : file ∈ schemas) :
    ∀ first ∈ file.methodTypes, ∀ second ∈ file.methodTypes,
      first.fullName = second.fullName → first = second := by
  obtain ⟨descriptor, _, hconvert⟩ := exists_of_mem_schemaFiles h hfile
  have hholds := holds_of_convertFile hconvert
  exact fun first hfirst second hsecond =>
    (hholds first hfirst).eq_of_fullName (hholds second hsecond)

end StubGen
