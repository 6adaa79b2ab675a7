import StubGen.Proofs.Conversion

/-!
# StubGen.Proofs.DescriptorOrder

What the schemas of selected files depend on.  Files and types are looked up by name among all that
is supplied, and of several with one name the last counts.  Where names are distinct, a look-up
finds the only one there is (`find?_reverse_eq_some_iff`), so it does not depend on the order.

1. The types that files declare are determined by the name, the package and the message types of
   each file (`mem_ofFiles_iff`).  Services, dependencies and comments declare none.
2. Conversion uses the declared types only to look them up (`convertFile_congr`).

So files can be supplied in any order, and the services of files that are not selected do not matter
(`conversion_order_independent`).
-/

namespace StubGen

/-! ## Declared types -/

/-- What a file declares: its name, its package and its message types. -/
def FileDescriptor.declaration (file : FileDescriptor) :
    String × String × List MessageDescriptor :=
  (file.name, file.package, file.messages)

/-- The types in a declaration. -/
def declaredTypes (declaration : String × String × List MessageDescriptor) : TypeIndex :=
  declaredAmong { name := declaration.1, package := declaration.2.1 } declaration.2.1
    declaration.2.2

mutual

/-- A type is declared alike in files of one name and one package. -/
theorem declaredBy_congr {file other : FileDescriptor} (hname : file.name = other.name)
    (hpackage : file.package = other.package) (scope : String) (message : MessageDescriptor) :
    declaredBy file scope message = declaredBy other scope message := by
  obtain ⟨name, nested⟩ := message
  rw [declaredBy, declaredBy, hname, hpackage,
    declaredAmong_congr hname hpackage (qualify scope name) nested]

/-- What messages declare depends on the name and the package of their file only. -/
theorem declaredAmong_congr {file other : FileDescriptor} (hname : file.name = other.name)
    (hpackage : file.package = other.package) (scope : String)
    (messages : List MessageDescriptor) :
    declaredAmong file scope messages = declaredAmong other scope messages := by
  cases messages with
  | nil => rw [declaredAmong, declaredAmong]
  | cons message rest =>
      rw [declaredAmong, declaredAmong, declaredBy_congr hname hpackage scope message,
        declaredAmong_congr hname hpackage scope rest]

end

/-- The types that files declare are those of their declarations. -/
theorem mem_ofFiles_iff {files : List FileDescriptor} {record : RecordType} :
    record ∈ TypeIndex.ofFiles files ↔
      ∃ declaration ∈ files.map FileDescriptor.declaration, record ∈ declaredTypes declaration := by
  have hfile (file : FileDescriptor) :
      declaredAmong file file.package file.messages = declaredTypes file.declaration := by
    apply declaredAmong_congr <;> rfl
  simp only [TypeIndex.ofFiles, List.mem_flatMap, List.mem_map, hfile, exists_exists_and_eq_and]

/-! ## Conversion by look-up -/

/-- Names are resolved by what is found for them, in whatever order types are declared. -/
theorem resolveType_congr {index other : TypeIndex}
    (h : ∀ name, index.find? name = other.find? name) (name : String) :
    resolveType index name = resolveType other name := by
  rw [resolveType, resolveType, h]

/-- A file is converted alike with types that are looked up alike. -/
theorem convertFile_congr {index other : TypeIndex}
    (h : ∀ name, index.find? name = other.find? name) (file : FileDescriptor) :
    convertFile index file = convertFile other file := by
  have hmethod : convertMethod index = convertMethod other := by
    funext position entry
    simp only [convertMethod, resolveType_congr h]
  have hservice : convertService index = convertService other := by
    funext package entry
    rw [convertService, convertService, hmethod]
  rw [convertFile, convertFile, hservice]

/-! ## Files in another order -/

/-- Files of which no two have the same name, and no two types either. -/
structure DistinctNames (files : List FileDescriptor) : Prop where
  fileNames : (files.map FileDescriptor.name).Nodup
  typeNames : ((TypeIndex.ofFiles files).map RecordType.fullName).Nodup

namespace DistinctNames

variable {first second : List FileDescriptor}

/-- Types with distinct names are looked up alike in files that declare the same. -/
theorem find?_ofFiles (hfirst : DistinctNames first) (hsecond : DistinctNames second)
    (hdeclared : ∀ declaration, declaration ∈ first.map FileDescriptor.declaration ↔
      declaration ∈ second.map FileDescriptor.declaration) (name : String) :
    (TypeIndex.ofFiles first).find? name = (TypeIndex.ofFiles second).find? name := by
  have hmem (record : RecordType) :
      record ∈ TypeIndex.ofFiles first ↔ record ∈ TypeIndex.ofFiles second := by
    simp only [mem_ofFiles_iff, hdeclared]
  apply Option.ext
  intro record
  rw [TypeIndex.find?, TypeIndex.find?, find?_reverse_eq_some_iff hfirst.typeNames,
    find?_reverse_eq_some_iff hsecond.typeNames, hmem]

/-- A file with a name of its own is looked up alike wherever it stands. -/
theorem fileNamed?_eq (hfirst : DistinctNames first) (hsecond : DistinctNames second)
    {name : String} (h : ∀ file, file.name = name → (file ∈ first ↔ file ∈ second)) :
    fileNamed? first name = fileNamed? second name := by
  apply Option.ext
  intro file
  rw [fileNamed?, fileNamed?, find?_reverse_eq_some_iff hfirst.fileNames,
    find?_reverse_eq_some_iff hsecond.fileNames]
  constructor
  · rintro ⟨hmem, hname⟩
    exact ⟨(h file hname).mp hmem, hname⟩
  · rintro ⟨hmem, hname⟩
    exact ⟨(h file hname).mpr hmem, hname⟩

end DistinctNames

/-- Names that are converted alike one by one are converted alike as a list. -/
theorem schemaFiles_congr {first second : List FileDescriptor} {names : List String}
    (h : ∀ name ∈ names, convertNamed first name = convertNamed second name) :
    schemaFiles first (some names) = schemaFiles second (some names) := by
  unfold schemaFiles selection
  rw [Option.getD_some, Option.getD_some]
  induction names with
  | nil => rfl
  | cons name rest ih =>
      rw [List.mapM_cons, List.mapM_cons, h name List.mem_cons_self,
        ih fun other hother => h other (List.mem_cons_of_mem _ hother)]

/-- **The order of the supplied files does not matter**, nor do the services of files that are not
selected: the selected files make the same schemas in the same order, or the same error.  Without a
selection all files are selected in the order in which they are supplied, and nothing else comes
from that order. -/
theorem conversion_order_independent {first second : List FileDescriptor} {names : List String}
    (hfirst : DistinctNames first) (hsecond : DistinctNames second)
    (hdeclared : ∀ declaration, declaration ∈ first.map FileDescriptor.declaration ↔
      declaration ∈ second.map FileDescriptor.declaration)
    (hselected : ∀ file, file.name ∈ names → (file ∈ first ↔ file ∈ second)) :
    schemaFiles first (some names) = schemaFiles second (some names) ∧
      (names = first.map FileDescriptor.name →
        schemaFiles first none = schemaFiles second (some names)) := by
  have hselection : schemaFiles first (some names) = schemaFiles second (some names) := by
    apply schemaFiles_congr
    intro name hname
    have hfile : fileNamed? first name = fileNamed? second name :=
      hfirst.fileNamed?_eq hsecond fun file hfileName => hselected file (hfileName ▸ hname)
    have hindex (file : FileDescriptor) :
        convertFile (TypeIndex.ofFiles first) file = convertFile (TypeIndex.ofFiles second) file :=
      convertFile_congr (hfirst.find?_ofFiles hsecond hdeclared) file
    simp only [convertNamed, hfile, hindex]
  refine ⟨hselection, ?_⟩
  rintro rfl
  exact hselection

/-- A file that only declares types, one of them inside another. -/
def lineFile : FileDescriptor where
  name := "line.proto"
  package := "text"
  messages := [⟨"Line", [⟨"Mark", []⟩]⟩]

/-- The same declarations, with a service whose types are declared nowhere. -/
def lineFileWithService : FileDescriptor :=
  { lineFile with services := [{ name := "Lost", methods := [{ inputType := ".text.Page" }] }] }

/-- A file with a service on the types of the other. -/
def editorFile : FileDescriptor where
  name := "editor.proto"
  package := "edit"
  services := [{ name := "Editor", methods := [{ name := "Mark", inputType := ".text.Line",
                                                 outputType := ".text.Line.Mark" }] }]

theorem conversion_order_independent_editor :
    schemaFiles [lineFile, editorFile] (some ["editor.proto"]) =
        schemaFiles [editorFile, lineFileWithService] (some ["editor.proto"]) ∧
      (schemaFiles [lineFile, editorFile] (some ["editor.proto"])).toBool = true ∧
      (schemaFiles [editorFile, lineFileWithService] none).toBool = false := by
  have hfirst : DistinctNames [lineFile, editorFile] := ⟨by decide, by decide⟩
  have hsecond : DistinctNames [editorFile, lineFileWithService] := ⟨by decide, by decide⟩
  have hdeclared (declaration : String × String × List MessageDescriptor) :
      declaration ∈ [lineFile, editorFile].map FileDescriptor.declaration ↔
        declaration ∈ [editorFile, lineFileWithService].map FileDescriptor.declaration := by
    simp only [List.map_cons, List.map_nil, List.mem_cons, List.not_mem_nil, or_false]
    exact or_comm
  have hselected (file : FileDescriptor) (hname : file.name ∈ ["editor.proto"]) :
      file ∈ [lineFile, editorFile] ↔ file ∈ [editorFile, lineFileWithService] := by
    have hline : file ≠ lineFile := by
      rintro rfl
      exact absurd hname (by decide)
    have hlineWithService : file ≠ lineFileWithService := by
      rintro rfl
      exact absurd hname (by decide)
    simp [hline, hlineWithService]
  exact ⟨(conversion_order_independent hfirst hsecond hdeclared hselected).1, by decide, by decide⟩

end StubGen
