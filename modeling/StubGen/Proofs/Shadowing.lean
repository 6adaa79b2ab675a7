import StubGen.Proofs.Alias
import StubGen.Proofs.Imports

/-!
# StubGen.Proofs.Shadowing

Which modules the aliases of a stub module denote.  Its imports take effect in order, so that an
alias denotes the module of the last import under it (`ModuleImport.denoted?`), and one
before it under the same alias is shadowed.

The stubs of a file keep the imported files apart exactly when no two of these have confusable names
(`keepsFilesApart_iff`).  Files with different names can be confusable, so this is a condition on
the names of the files (`keepsFilesApart_not_always`).
-/

namespace StubGen

open FileName

/-- The import that an alias denotes behind some imports. -/
def ModuleImport.denoted? (imports : List ModuleImport) (aliasName : String) :
    Option ModuleImport :=
  imports.reverse.find? fun imported => imported.aliasName == aliasName

namespace SchemaFile

/-- A text that denotes a type in the module of the type's own file. -/
def Denotes (file : SchemaFile) (reference : String) (record : RecordType) : Prop :=
  ∃ aliasName, reference = aliasName ++ "." ++ record.relativeName ∧
    ModuleImport.denoted? file.imports aliasName =
      some (ModuleImport.resolve file.name record.fileName)

/-- Imports of different files have different aliases. -/
def AliasesApart (file : SchemaFile) : Prop :=
  ∀ first ∈ file.importedFiles, ∀ second ∈ file.importedFiles, first ≠ second →
    (ModuleImport.resolve file.name first).aliasName ≠
      (ModuleImport.resolve file.name second).aliasName

/-- A file whose stubs keep the files that they import apart. -/
structure KeepsFilesApart (file : SchemaFile) : Prop where
  aliases : file.AliasesApart
  /-- No import is shadowed by a later one. -/
  unshadowed : ∀ imported ∈ file.imports,
    ModuleImport.denoted? file.imports imported.aliasName = some imported
  /-- Every type reference denotes a type in the module of the type's own file. -/
  references : ∀ service ∈ file.services, ∀ method ∈ service.methods,
    file.Denotes (Stub.bindMethod service method).inputType method.input ∧
      file.Denotes (Stub.bindMethod service method).outputType method.output

/-- An import whose alias no other file has is not shadowed. -/
theorem AliasesApart.denoted? {file : SchemaFile} (h : file.AliasesApart) {imported : ModuleImport}
    (himported : imported ∈ file.imports) :
    ModuleImport.denoted? file.imports imported.aliasName = some imported := by
  obtain ⟨name, hname, rfl⟩ := List.mem_map.mp himported
  cases hfind : ModuleImport.denoted? file.imports
      (ModuleImport.resolve file.name name).aliasName with
  | none =>
      have hnone := List.find?_eq_none.mp hfind _ (List.mem_reverse.mpr himported)
      simp at hnone
  | some found =>
      have hfound := List.mem_reverse.mp (List.mem_of_find?_eq_some hfind)
      obtain ⟨other, hother, rfl⟩ := List.mem_map.mp hfound
      have halias := List.find?_some hfind
      have hsame : other = name := by
        by_contra hne
        exact h other hother name hname hne (eq_of_beq halias)
      rw [hsame]

/-- The stubs keep the files apart if the aliases do. -/
theorem AliasesApart.keepsFilesApart {file : SchemaFile} (h : file.AliasesApart)
    (htypes : file.OneTypePerName) : file.KeepsFilesApart := by
  have hdenotes : ∀ record ∈ file.methodTypes, file.Denotes (Stub.typeReference record) record := by
    intro record hrecord
    obtain ⟨hmem, hreference⟩ := refers_typeReference htypes hrecord
    exact ⟨_, hreference, h.denoted? hmem⟩
  refine ⟨h, fun imported => h.denoted?, fun service hservice method hmethod => ?_⟩
  obtain ⟨hinput, houtput⟩ := mem_methodTypes hservice hmethod
  exact ⟨hdenotes _ hinput, hdenotes _ houtput⟩

/-- The aliases keep the files apart exactly when no two of their names are confusable. -/
theorem aliasesApart_iff {file : SchemaFile} :
    file.AliasesApart ↔ ∀ first ∈ file.importedFiles, ∀ second ∈ file.importedFiles,
      first ≠ second → ¬ Confusable first second := by
  simp only [AliasesApart, ← moduleAlias_eq_iff]
  rfl

end SchemaFile

/-- **Stubs keep the imported files apart** exactly when no two of them have confusable names.  For
names without fillers this means that no two stems are equal up to their separators. -/
theorem keepsFilesApart_iff {files : List FileDescriptor} {selected : Option (List String)}
    {schemas : List SchemaFile} (h : schemaFiles files selected = .ok schemas) {file : SchemaFile}
    (hfile : file ∈ schemas) :
    (file.KeepsFilesApart ↔ ∀ first ∈ file.importedFiles, ∀ second ∈ file.importedFiles,
      first ≠ second → ¬ Confusable first second) ∧
    ∀ first second, Ordinary (stem first).toList → Ordinary (stem second).toList →
      (Confusable first second ↔ dotted (stem first).toList = dotted (stem second).toList) := by
  have htypes : file.OneTypePerName := eq_of_fullName_of_schemaFiles h hfile
  refine ⟨?_, fun first second => confusable_iff_of_ordinary⟩
  rw [← SchemaFile.aliasesApart_iff]
  exact ⟨fun hapart => hapart.aliases, fun haliases => haliases.keepsFilesApart htypes⟩

theorem keepsFilesApart_iff_talk :
    schemaFiles talkFiles (some ["talk.proto"]) = .ok [talkSchema] ∧ talkSchema ∈ [talkSchema] ∧
      talkSchema.KeepsFilesApart :=
  have hschemas : schemaFiles talkFiles (some ["talk.proto"]) = .ok [talkSchema] := by decide
  have hmem : talkSchema ∈ [talkSchema] := List.mem_singleton_self _
  have hordinary : ∀ name ∈ talkSchema.importedFiles, Ordinary (stem name).toList := by
    decide +kernel
  have hnames : ∀ first ∈ talkSchema.importedFiles, ∀ second ∈ talkSchema.importedFiles,
      first ≠ second → dotted (stem first).toList ≠ dotted (stem second).toList := by
    decide +kernel
  have hiff := keepsFilesApart_iff hschemas hmem
  ⟨hschemas, hmem, hiff.1.mpr fun first hfirst second hsecond hne hconfusable =>
    hnames first hfirst second hsecond hne
      ((hiff.2 first second (hordinary first hfirst) (hordinary second hsecond)).mp hconfusable)⟩

/-- A file that imports two files whose names differ in a separator. -/
def mixedFiles : List FileDescriptor :=
  [{ name := "a/b.proto", package := "one", messages := [⟨"Text", []⟩] },
   { name := "a.b.proto", package := "two", messages := [⟨"Text", []⟩] },
   { name := "c.proto", package := "c", dependencies := ["a/b.proto", "a.b.proto"],
     services := [{ name := "Mixed",
                    methods := [{ name := "Say", inputType := ".one.Text",
                                  outputType := ".two.Text" }] }] }]

/-- The schema of that file. -/
def mixedSchema : SchemaFile where
  name := "c.proto"
  package := "c"
  services :=
    [{ name := "Mixed", fullName := "c.Mixed", location := [6, 0],
       methods := [{ name := "Say", input := ⟨"one.Text", "a/b.proto", "one"⟩,
                     output := ⟨"two.Text", "a.b.proto", "two"⟩, location := [6, 0, 2, 0] }] }]
  dependencies := ["a/b.proto", "a.b.proto"]

/-- Files with different names can share an alias. -/
theorem keepsFilesApart_not_always :
    ¬ ∀ (files : List FileDescriptor) (selected : Option (List String)) (schemas : List SchemaFile),
      schemaFiles files selected = .ok schemas → (files.map FileDescriptor.name).Nodup →
      (∀ file ∈ files, ".proto".toList.isSuffixOf file.name.toList = true) →
      ∀ file ∈ schemas, file.KeepsFilesApart := by
  intro h
  have hapart : mixedSchema.KeepsFilesApart :=
    h mixedFiles (some ["c.proto"]) [mixedSchema] (by decide) (by decide) (by decide) mixedSchema
      (List.mem_singleton_self _)
  have hshared : (ModuleImport.resolve "c.proto" "a/b.proto").aliasName =
      (ModuleImport.resolve "c.proto" "a.b.proto").aliasName := by decide +kernel
  exact hapart.aliases "a/b.proto" (by decide) "a.b.proto" (by decide) (by decide) hshared

end StubGen
