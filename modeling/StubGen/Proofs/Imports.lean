import StubGen.Proofs.Conversion
import StubGen.Proofs.Keyed
import StubGen.Stub.Binding

/-!
# StubGen.Proofs.Imports

The imports of a stub module cover its type references.  The imported files come from three places:
the file itself, its dependencies, and the owners of the types that its methods refer to.

1. The file and its dependencies come in order of first occurrence (`firstOccurrences_declared`).
2. The other owners come in ascending order (`importedFiles_order`).
3. The referenced types are kept by full name, and a full name belongs to one type, so that no owner
   is lost (`mem_owners_iff`).

`type_references_imported` puts the three together.
-/

namespace StubGen

namespace SchemaFile

/-- The file itself, if it has messages. -/
def ownFiles (file : SchemaFile) : List String :=
  if file.hasMessages then [file.name] else []

/-- A file with a type that a method of this file refers to. -/
def Owner (file : SchemaFile) (name : String) : Prop :=
  ∃ record ∈ file.methodTypes, record.fileName = name

/-- The full names of the types that the methods refer to determine the types. -/
def OneTypePerName (file : SchemaFile) : Prop :=
  ∀ first ∈ file.methodTypes, ∀ second ∈ file.methodTypes,
    first.fullName = second.fullName → first = second

/-- Keeping one type per full name loses no owner. -/
theorem mem_owners_iff {file : SchemaFile} (h : file.OneTypePerName) {name : String} :
    name ∈ file.owners ↔ file.Owner name := by
  obtain ⟨added, hfold, hadded⟩ := foldl_appendNew RecordType.fullName file.methodTypes []
  have htypes : file.referencedTypes = added := hfold
  rw [owners, htypes, List.mem_map]
  constructor
  · rintro ⟨record, hrecord, hname⟩
    exact ⟨record, hadded.subset record hrecord, hname⟩
  · rintro ⟨record, hrecord, hname⟩
    obtain ⟨other, hother, hfull⟩ := hadded.covers record hrecord
    have hsame := h other (hadded.subset other hother) record hrecord hfull
    exact ⟨other, hother, hsame ▸ hname⟩

/-- How the imported files are arranged: the file itself, its dependencies in order of first
occurrence, and the other owners in ascending order. -/
structure ImportOrder (file : SchemaFile) (declared others : List String) : Prop where
  mem_declared : ∀ name, name ∈ declared ↔ name ∈ file.dependencies ∧ name ∉ file.ownFiles
  declared_order : declared.Pairwise fun first second =>
    file.dependencies.idxOf first < file.dependencies.idxOf second
  mem_others : ∀ name, name ∈ others ↔
    file.Owner name ∧ name ∉ file.ownFiles ∧ name ∉ file.dependencies
  others_order : others.Pairwise (· < ·)

/-- The file itself comes first, if it has messages, and then its dependencies without repetitions.
-/
theorem firstOccurrences_declared (file : SchemaFile) :
    ∃ declared, firstOccurrences (file.ownFiles ++ file.dependencies) = file.ownFiles ++ declared ∧
      FirstOfKey id file.ownFiles file.dependencies declared := by
  have hown : file.ownFiles.foldl (appendNew id) [] = file.ownFiles := by
    unfold ownFiles
    split <;> rfl
  obtain ⟨declared, hfold, hdeclared⟩ := foldl_appendNew id file.dependencies file.ownFiles
  refine ⟨declared, ?_, hdeclared⟩
  rw [firstOccurrences, List.foldl_append, hown, hfold]

/-- The imports of a file have the order that they should have. -/
theorem importedFiles_order {file : SchemaFile} (h : file.OneTypePerName) :
    ∃ declared others, file.importedFiles = file.ownFiles ++ declared ++ others ∧
      ImportOrder file declared others := by
  obtain ⟨declared, hfirst, hdeclared⟩ := firstOccurrences_declared file
  have horder := pairwise_ascending
    (file.owners.filter fun owner => !(file.ownFiles ++ declared).contains owner)
  have hmem_declared : ∀ name,
      name ∈ declared ↔ name ∈ file.dependencies ∧ name ∉ file.ownFiles := by
    intro name
    constructor
    · exact fun hname => ⟨hdeclared.subset name hname,
        fun hown => hdeclared.fresh name hname name hown rfl⟩
    · rintro ⟨hdependency, hown⟩
      obtain ⟨other, hother, rfl⟩ := hdeclared.covers name hdependency
      exact (List.mem_append.mp hother).resolve_left hown
  refine ⟨declared, _, ?_, hmem_declared, by simpa using hdeclared.order, ?_, horder⟩
  · rw [importedFiles, ← hfirst]
    rfl
  · intro name
    rw [mem_ascending, List.mem_filter, mem_owners_iff h]
    simp only [Bool.not_eq_true', List.contains_eq_mem, decide_eq_false_iff_not, List.mem_append,
      not_or, hmem_declared, not_and_or, not_not]
    tauto

/-- No file is imported twice. -/
theorem ImportOrder.nodup {file : SchemaFile} {declared others : List String}
    (h : ImportOrder file declared others) : (file.ownFiles ++ declared ++ others).Nodup := by
  have hown : file.ownFiles.Nodup := by
    unfold ownFiles
    split <;> simp
  have hdeclared : declared.Nodup :=
    h.declared_order.imp fun hlt heq => absurd hlt (by simp [heq])
  have hothers : others.Nodup := by
    refine h.others_order.imp ?_
    rintro name _ hlt rfl
    exact String.lt_irrefl name hlt
  rw [List.nodup_append, List.nodup_append]
  refine ⟨⟨hown, hdeclared, ?_⟩, hothers, ?_⟩
  · rintro name hname _ hother rfl
    exact ((h.mem_declared name).mp hother).2 hname
  · rintro name hname _ hother rfl
    obtain ⟨-, hnotOwn, hnotDependency⟩ := (h.mem_others name).mp hother
    rcases List.mem_append.mp hname with hmem | hmem
    · exact hnotOwn hmem
    · exact hnotDependency ((h.mem_declared name).mp hmem).1

/-- The imported files are the file itself if it has messages, its dependencies and the owners. -/
theorem ImportOrder.mem_iff {file : SchemaFile} {declared others : List String}
    (h : ImportOrder file declared others) (name : String) :
    name ∈ file.ownFiles ++ declared ++ others ↔
      name ∈ file.ownFiles ∨ name ∈ file.dependencies ∨ file.Owner name := by
  simp only [List.mem_append, h.mem_declared, h.mem_others]
  tauto

/-- A text that refers to a type through the import of the type's own file. -/
def Refers (file : SchemaFile) (reference : String) (record : RecordType) : Prop :=
  ModuleImport.resolve file.name record.fileName ∈ file.imports ∧
    reference = (ModuleImport.resolve file.name record.fileName).aliasName ++ "." ++
      record.relativeName

/-- A type is referred to through the module that is imported for its file. -/
theorem refers_typeReference {file : SchemaFile} (h : file.OneTypePerName) {record : RecordType}
    (hrecord : record ∈ file.methodTypes) : file.Refers (Stub.typeReference record) record := by
  obtain ⟨declared, others, hfiles, horder⟩ := importedFiles_order h
  refine ⟨?_, rfl⟩
  apply List.mem_map_of_mem
  rw [hfiles, horder.mem_iff]
  exact .inr (.inr ⟨record, hrecord, rfl⟩)

/-- A file whose stubs import what they refer to. -/
structure ImportsTypes (file : SchemaFile) : Prop where
  /-- Every type is referred to through the import of its file. -/
  references : ∀ service ∈ file.services, ∀ method ∈ service.methods,
    file.Refers (Stub.bindMethod service method).inputType method.input ∧
      file.Refers (Stub.bindMethod service method).outputType method.output
  /-- The file itself if it has messages, its dependencies and the owners of the types are imported,
  each once and in this order. -/
  arrangement : ∃ declared others,
    file.imports = (file.ownFiles ++ declared ++ others).map (ModuleImport.resolve file.name) ∧
    (file.ownFiles ++ declared ++ others).Nodup ∧
    (∀ name, name ∈ file.ownFiles ++ declared ++ others ↔
      (file.hasMessages = true ∧ name = file.name) ∨ name ∈ file.dependencies ∨ file.Owner name) ∧
    file.ImportOrder declared others

end SchemaFile

/-- **Every type reference is imported** in the stubs of converted files. -/
theorem type_references_imported {files : List FileDescriptor} {selected : Option (List String)}
    {schemas : List SchemaFile} (h : schemaFiles files selected = .ok schemas) {file : SchemaFile}
    (hfile : file ∈ schemas) : file.ImportsTypes := by
  have hone : file.OneTypePerName := eq_of_fullName_of_schemaFiles h hfile
  refine ⟨fun service hservice method hmethod => ?_, ?_⟩
  · obtain ⟨hinput, houtput⟩ := mem_methodTypes hservice hmethod
    exact ⟨SchemaFile.refers_typeReference hone hinput,
      SchemaFile.refers_typeReference hone houtput⟩
  · obtain ⟨declared, others, hfiles, horder⟩ := SchemaFile.importedFiles_order hone
    refine ⟨declared, others, by rw [SchemaFile.imports, hfiles], horder.nodup, ?_, horder⟩
    intro name
    rw [horder.mem_iff]
    simp [SchemaFile.ownFiles]

/-- Three files, of which the last refers to a type of the first without depending on it. -/
def talkFiles : List FileDescriptor :=
  [{ name := "base.proto", package := "base", messages := [⟨"Text", []⟩] },
   { name := "hub.proto", dependencies := ["base.proto"] },
   { name := "talk.proto", package := "talk", dependencies := ["hub.proto"],
     messages := [⟨"Ask", []⟩],
     services := [{ name := "Talk",
                    methods := [{ name := "Say", inputType := ".talk.Ask",
                                  outputType := ".base.Text" }] }] }]

/-- The schema of the last of the three. -/
def talkSchema : SchemaFile where
  name := "talk.proto"
  package := "talk"
  services :=
    [{ name := "Talk", fullName := "talk.Talk", location := [6, 0],
       methods := [{ name := "Say", input := ⟨"talk.Ask", "talk.proto", "talk"⟩,
                     output := ⟨"base.Text", "base.proto", "base"⟩, location := [6, 0, 2, 0] }] }]
  dependencies := ["hub.proto"]
  hasMessages := true

theorem type_references_imported_talk :
    schemaFiles talkFiles (some ["talk.proto"]) = .ok [talkSchema] ∧ talkSchema ∈ [talkSchema] ∧
      talkSchema.ImportsTypes :=
  have hschemas : schemaFiles talkFiles (some ["talk.proto"]) = .ok [talkSchema] := by decide
  have hmem : talkSchema ∈ [talkSchema] := List.mem_singleton_self _
  ⟨hschemas, hmem, type_references_imported hschemas hmem⟩

end StubGen
