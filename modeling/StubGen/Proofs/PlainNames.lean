import StubGen.Proofs.Binding
import StubGen.Proofs.Imports
import StubGen.Stub.Client
import StubGen.Stub.Server

/-!
# StubGen.Proofs.PlainNames

Names of plain characters: letters and digits of ASCII, and the marks that names and paths are made
with.  If the names of a schema are plain, then so are all names that generated code has from it
(`plainNames_bindMethod`, `SchemaFile.PlainNames.of_mem_importedFiles`).
-/

namespace StubGen.Text

/-- Letters and digits of ASCII, and the marks that names and paths are made with. -/
def isPlainChar (c : Char) : Bool :=
  c.isAlphanum || c == '_' || c == '-' || c == '/' || c == '.'

/-- A text of plain characters only. -/
def Plain (text : String) : Prop :=
  ∀ c ∈ text.toList, isPlainChar c = true

instance (text : String) : Decidable (Plain text) :=
  decidable_of_iff (text.toList.all isPlainChar = true) List.all_eq_true

theorem plain_append {first second : String} :
    Plain (first ++ second) ↔ Plain first ∧ Plain second := by
  simp only [Plain, String.toList_append, List.forall_mem_append]

theorem plain_ofList {chars : List Char} :
    Plain (String.ofList chars) ↔ ∀ c ∈ chars, isPlainChar c = true := by
  rw [Plain, String.toList_ofList]

/-- A text that has no characters but those of a plain one is plain. -/
theorem Plain.of_subset {text : String} (h : Plain text) {chars : List Char}
    (hsubset : chars ⊆ text.toList) : Plain (String.ofList chars) :=
  plain_ofList.mpr fun c hc => h c (hsubset hc)

/-! ## Lower case -/

theorem toNat_lt_of_isPlainChar {c : Char} (h : isPlainChar c = true) : c.toNat < 0x80 := by
  unfold isPlainChar Char.isAlphanum Char.isAlpha Char.isUpper Char.isLower Char.isDigit at h
  simp only [Bool.or_eq_true, Bool.and_eq_true, decide_eq_true_eq, ge_iff_le,
    UInt32.le_iff_toNat_le, beq_iff_eq] at h
  rw [Char.toNat]
  rcases h with (((((h | h) | h) | rfl) | rfl) | rfl) | rfl
  · exact h.2.trans_lt (by decide)
  · exact h.2.trans_lt (by decide)
  · exact h.2.trans_lt (by decide)
  all_goals decide

/-- Lower-casing keeps characters plain. -/
theorem isPlainChar_toLower {c : Char} (h : isPlainChar c = true) :
    isPlainChar c.toLower = true := by
  have hall : ∀ code < 0x80, isPlainChar (Char.ofNat code) = true →
      isPlainChar (Char.ofNat code).toLower = true := by decide +kernel
  have hcode := hall c.toNat (toNat_lt_of_isPlainChar h)
  rw [Char.ofNat_toNat] at hcode
  exact hcode h

/-- Lower-casing a text keeps it plain. -/
theorem isPlainChar_of_mem_lowerFrom {before chars : List Char}
    (h : ∀ c ∈ chars, isPlainChar c = true) :
    ∀ c ∈ lowerFrom before chars, isPlainChar c = true := by
  induction chars generalizing before with
  | nil => simp [lowerFrom]
  | cons c rest ih =>
      rw [List.forall_mem_cons] at h
      have hsigma : c ≠ 'Σ' := by
        rintro rfl
        exact absurd h.1 (by decide)
      rw [lowerFrom, if_neg hsigma, lowerChar, if_pos (toNat_lt_of_isPlainChar h.1)]
      exact List.forall_mem_cons.mpr ⟨isPlainChar_toLower h.1, ih h.2⟩

end StubGen.Text

namespace StubGen

open Text

/-! ## Names of methods -/

/-- Splitting into words keeps a text plain. -/
theorem isPlainChar_of_mem_splitWords {chars : List Char} (h : ∀ c ∈ chars, isPlainChar c = true) :
    ∀ c ∈ Identifier.splitWords chars, isPlainChar c = true := by
  fun_induction Identifier.splitWords chars with
  | case1 before c after _ ih =>
      rw [List.forall_mem_cons] at h
      exact List.forall_mem_cons.mpr ⟨h.1, List.forall_mem_cons.mpr ⟨rfl, ih h.2⟩⟩
  | case2 before c after _ ih =>
      rw [List.forall_mem_cons] at h
      exact List.forall_mem_cons.mpr ⟨h.1, ih h.2⟩
  | case3 chars _ => exact h

/-- The name of a function is plain if that of its method is. -/
theorem plain_methodName {name : String} (h : Plain name) : Plain (Identifier.methodName name) := by
  have hsnake : Plain (Identifier.snakeCase name) :=
    plain_ofList.mpr (isPlainChar_of_mem_lowerFrom (isPlainChar_of_mem_splitWords h))
  unfold Identifier.methodName Identifier.avoidKeyword
  split
  · exact plain_append.mpr ⟨hsnake, by decide⟩
  · exact hsnake

/-- The name of a trace wrapper is plain if that of its function is. -/
theorem plain_traceAttribute {function : String} (h : Plain function) :
    Plain (Stub.traceAttribute function) := by
  have hsubset : (function.toList.reverse.dropWhile (· == '_')).reverse ⊆ function.toList :=
    (List.rdropWhile_prefix (· == '_') function.toList).subset
  rw [Stub.traceAttribute, plain_append, plain_append]
  exact ⟨⟨by decide, h.of_subset hsubset⟩, by decide⟩

/-! ## Names of files -/

theorem FileName.stem_subset (name : String) : (stem name).toList ⊆ name.toList := by
  unfold stem
  split
  · rw [String.toList_ofList]
    exact List.take_subset _ _
  · exact List.Subset.refl _

/-- The characters with which aliases spell marks, and those of their marker. -/
def FileName.aliasLetters : List Char :=
  ['_', 'd', 'o', 't', 'a', 's', 'h', 'p', 'b', '2']

/-- The characters of an alias are those of the name, or letters that spell others. -/
theorem FileName.mem_aliasChar {c d : Char} (h : d ∈ aliasChar c) :
    (d = c ∧ isWordChar c = true) ∨ d ∈ aliasLetters := by
  have hletters {text : List Char} (hd : d ∈ text) (htext : text ⊆ aliasLetters) :
      (d = c ∧ isWordChar c = true) ∨ d ∈ aliasLetters := .inr (htext hd)
  unfold aliasChar at h
  split at h
  · exact hletters h (by decide)
  · split at h
    · exact hletters h (by decide)
    · split at h
      · exact hletters h (by decide)
      · split at h
        next hword => exact .inl ⟨List.mem_singleton.mp h, hword⟩
        next => exact hletters h (by decide)

theorem FileName.mem_guardDigit {chars : List Char} {d : Char} (h : d ∈ guardDigit chars) :
    d ∈ chars ∨ d = '_' := by
  unfold guardDigit at h
  split at h
  · exact .inl h
  · split at h
    · exact (List.mem_cons.mp h).symm
    · exact .inl h

/-- An alias is made of the characters of its name that can stand in identifiers, and of some
letters. -/
theorem FileName.mem_moduleAlias {name : String} {d : Char} (h : d ∈ (moduleAlias name).toList) :
    (d ∈ name.toList ∧ isWordChar d = true) ∨ d ∈ aliasLetters := by
  rw [moduleAlias, String.toList_append, String.toList_ofList, List.mem_append] at h
  rcases h with h | h
  · rcases mem_guardDigit h with h | rfl
    · obtain ⟨c, hc, hd⟩ := List.mem_flatMap.mp h
      rcases mem_aliasChar hd with ⟨rfl, hword⟩ | hletter
      · exact .inl ⟨stem_subset name hc, hword⟩
      · exact .inr hletter
    · exact .inr (by decide)
  · exact .inr ((by decide : "__pb2".toList ⊆ aliasLetters) h)

theorem isPlainChar_of_mem_aliasLetters {c : Char} (h : c ∈ FileName.aliasLetters) :
    isPlainChar c = true := by
  have hletters : ∀ c ∈ FileName.aliasLetters, isPlainChar c = true :=
    List.all_eq_true.mp (by decide)
  exact hletters c h

/-- An alias is plain if the name of the file is. -/
theorem plain_moduleAlias {name : String} (h : Plain name) : Plain (FileName.moduleAlias name) := by
  intro c hc
  rcases FileName.mem_moduleAlias hc with ⟨hmem, _⟩ | hletter
  · exact h c hmem
  · exact isPlainChar_of_mem_aliasLetters hletter

/-- The components of a name hold no characters but those of the name. -/
theorem subset_of_mem_components {name : String} {component : List Char}
    (h : component ∈ FileName.components name) : component ⊆ name.toList := by
  have hjoined : ['/'].intercalate (name.toList.splitOn '/') = name.toList :=
    List.intercalate_splitOn '/'
  intro c hc
  rw [← hjoined, List.intercalate, List.mem_flatten]
  exact ⟨component, mem_intersperse h, hc⟩

theorem FileName.mem_messageModule {name : String} {d : Char}
    (h : d ∈ (messageModule name).toList) : d ∈ name.toList ∨ d ∈ aliasLetters := by
  have hbase : baseChars (stem name) ⊆ (stem name).toList := by
    rw [baseChars, List.getLastD_eq_getLast?]
    cases hlast : (components (stem name)).getLast? with
    | none => simp
    | some component => exact subset_of_mem_components (List.mem_of_getLast? hlast)
  rw [messageModule, String.toList_append, String.toList_ofList, List.mem_append] at h
  rcases h with h | h
  · obtain ⟨c, hc, rfl⟩ := List.mem_map.mp h
    split
    · exact .inr (by decide)
    · exact .inl (stem_subset name (hbase hc))
  · exact .inr ((by decide : "_pb2".toList ⊆ aliasLetters) h)

theorem plain_messageModule {name : String} (h : Plain name) :
    Plain (FileName.messageModule name) := by
  intro c hc
  rcases FileName.mem_messageModule hc with hmem | hletter
  · exact h c hmem
  · exact isPlainChar_of_mem_aliasLetters hletter

theorem ModuleImport.mem_packageFrom {current dependency : String} {d : Char}
    (h : d ∈ (packageFrom current dependency).toList) :
    d ∈ dependency.toList ∨ d ∈ wellKnownPackage.toList := by
  unfold packageFrom at h
  split at h
  · exact .inr h
  · rw [String.toList_ofList, List.mem_append] at h
    rcases h with hdot | h
    · rw [List.eq_of_mem_replicate hdot]
      exact .inr (by decide)
    · rw [List.intercalate, List.mem_flatten] at h
      obtain ⟨component, hcomponent, hmem⟩ := h
      rcases mem_or_eq_of_mem_intersperse hcomponent with hcomponent | rfl
      · exact .inl (subset_of_mem_components (List.dropLast_subset _ hcomponent) hmem)
      · rw [List.mem_singleton.mp hmem]
        exact .inr (by decide)

/-- The package of an import is plain if the name of the file is. -/
theorem plain_packageFrom {current dependency : String} (h : Plain dependency) :
    Plain (ModuleImport.packageFrom current dependency) := by
  have hwellKnown : Plain ModuleImport.wellKnownPackage := by decide
  intro c hc
  rcases ModuleImport.mem_packageFrom hc with hmem | hmem
  · exact h c hmem
  · exact hwellKnown c hmem

/-! ## Names of types -/

/-- A type with a plain name, in a file with a plain name. -/
@[mk_iff] structure RecordType.PlainNames (record : RecordType) : Prop where
  fullName : Plain record.fullName
  fileName : Plain record.fileName

instance (record : RecordType) : Decidable record.PlainNames :=
  decidable_of_iff' _ (RecordType.plainNames_iff record)

/-- The expression for a type is plain if its names are. -/
theorem plain_typeReference {record : RecordType} (h : record.PlainNames) :
    Plain (Stub.typeReference record) := by
  have hrelative : Plain record.relativeName := by
    simp only [RecordType.relativeName]
    split
    · exact h.fullName.of_subset (List.drop_subset _ _)
    · exact h.fullName
  rw [Stub.typeReference, plain_append, plain_append]
  exact ⟨⟨plain_moduleAlias h.fileName, by decide⟩, hrelative⟩

/-! ## Names of a schema -/

/-- A method with plain names. -/
@[mk_iff] structure Method.PlainNames (method : Method) : Prop where
  name : Plain method.name
  input : method.input.PlainNames
  output : method.output.PlainNames

instance (method : Method) : Decidable method.PlainNames :=
  decidable_of_iff' _ (Method.plainNames_iff method)

/-- A service with plain names. -/
@[mk_iff] structure Service.PlainNames (service : Service) : Prop where
  name : Plain service.name
  fullName : Plain service.fullName
  methods : ∀ method ∈ service.methods, method.PlainNames

instance (service : Service) : Decidable service.PlainNames :=
  decidable_of_iff' _ (Service.plainNames_iff service)

/-- A file with plain names, dependencies and types included. -/
@[mk_iff] structure SchemaFile.PlainNames (file : SchemaFile) : Prop where
  name : Plain file.name
  dependencies : ∀ dependency ∈ file.dependencies, Plain dependency
  services : ∀ service ∈ file.services, service.PlainNames

instance (file : SchemaFile) : Decidable file.PlainNames :=
  decidable_of_iff' _ (SchemaFile.plainNames_iff file)

namespace SchemaFile

/-- A file imports none but itself, its dependencies, and the owners of the types of its methods. -/
theorem of_mem_importedFiles {file : SchemaFile} {name : String}
    (h : name ∈ file.importedFiles) :
    name ∈ file.ownFiles ∨ name ∈ file.dependencies ∨ file.Owner name := by
  obtain ⟨declared, hfirst, hdeclared⟩ := firstOccurrences_declared file
  obtain ⟨types, hfold, htypes⟩ := foldl_appendNew RecordType.fullName file.methodTypes []
  have hreferenced : file.referencedTypes = types := hfold
  have hfiles : file.importedFiles = (file.ownFiles ++ declared) ++
      ascending (file.owners.filter fun owner => !(file.ownFiles ++ declared).contains owner) := by
    rw [importedFiles, ← hfirst]
    rfl
  rw [hfiles, List.mem_append, List.mem_append, mem_ascending, List.mem_filter, owners,
    hreferenced, List.mem_map] at h
  rcases h with (hown | hdependency) | ⟨⟨record, hrecord, hname⟩, _⟩
  · exact .inl hown
  · exact .inr (.inl (hdeclared.subset name hdependency))
  · exact .inr (.inr ⟨record, htypes.subset record hrecord, hname⟩)

/-- What holds of a file's own name, of its dependencies and of the owners of the types of its
methods holds of all files that it imports. -/
theorem forall_mem_importedFiles {file : SchemaFile} {p : String → Prop} (hname : p file.name)
    (hdependencies : ∀ name ∈ file.dependencies, p name)
    (htypes : ∀ record ∈ file.methodTypes, p record.fileName) :
    ∀ name ∈ file.importedFiles, p name := by
  intro name hmem
  rcases of_mem_importedFiles hmem with hown | hdependency | ⟨record, hrecord, rfl⟩
  · unfold ownFiles at hown
    split at hown
    · exact List.mem_singleton.mp hown ▸ hname
    · cases hown
  · exact hdependencies name hdependency
  · exact htypes record hrecord

/-- In a file with plain names, the types of methods have plain names. -/
theorem PlainNames.of_mem_methodTypes {file : SchemaFile} (h : file.PlainNames)
    {record : RecordType} (hrecord : record ∈ file.methodTypes) : record.PlainNames := by
  obtain ⟨service, hservice, hrecord⟩ := List.mem_flatMap.mp hrecord
  obtain ⟨method, hmethod, hrecord⟩ := List.mem_flatMap.mp hrecord
  have hplain := (h.services service hservice).methods method hmethod
  simp only [List.mem_cons, List.not_mem_nil, or_false] at hrecord
  rcases hrecord with rfl | rfl
  · exact hplain.input
  · exact hplain.output

/-- The files that a file imports have plain names. -/
theorem PlainNames.of_mem_importedFiles {file : SchemaFile} (h : file.PlainNames)
    {name : String} (hname : name ∈ file.importedFiles) : Plain name :=
  forall_mem_importedFiles h.name h.dependencies
    (fun _ hrecord => (h.of_mem_methodTypes hrecord).fileName) name hname

end SchemaFile

/-- A method whose names in generated code are plain. -/
structure Stub.BoundMethod.PlainNames (bound : Stub.BoundMethod) : Prop where
  rpcName : Plain bound.rpcName
  function : Plain bound.function
  serviceName : Plain bound.serviceName
  operation : Plain bound.operation
  traceAttribute : Plain bound.traceAttribute
  inputType : Plain bound.inputType
  outputType : Plain bound.outputType

/-- All names that a method needs are plain if those in the schema are. -/
theorem plainNames_bindMethod {service : Service} {method : Method} (hservice : service.PlainNames)
    (hmethod : method.PlainNames) : (Stub.bindMethod service method).PlainNames := by
  have hfunction : Plain (Identifier.methodName method.name) := plain_methodName hmethod.name
  have hoperation : Plain (service.name ++ "." ++ Identifier.methodName method.name) := by
    rw [plain_append, plain_append]
    exact ⟨⟨hservice.name, by decide⟩, hfunction⟩
  unfold Stub.bindMethod
  generalize Identifier.methodName method.name = function at hfunction hoperation ⊢
  exact ⟨hmethod.name, hfunction, hservice.fullName, hoperation, plain_traceAttribute hfunction,
    plain_typeReference hmethod.input, plain_typeReference hmethod.output⟩

/-- A service whose names in generated code are plain. -/
structure Stub.BoundService.PlainNames (bound : Stub.BoundService) : Prop where
  name : Plain bound.service.name
  methods : ∀ method ∈ bound.methods, method.PlainNames

/-- All names that a service needs are plain if those in the schema are. -/
theorem plainNames_of_bindService {service : Service} {bound : Stub.BoundService}
    (h : service.PlainNames) (hbound : Stub.bindService service = .ok bound) :
    bound.PlainNames := by
  unfold Stub.bindService at hbound
  cases hmethods : Stub.bindMethods service with
  | error clash => simp [hmethods] at hbound
  | ok methods =>
      simp only [hmethods, Except.ok.injEq] at hbound
      obtain ⟨rfl, _⟩ := Stub.bindMethods_eq_ok_iff.mp hmethods
      subst hbound
      refine ⟨h.name, ?_⟩
      rw [List.forall_mem_map]
      exact fun method hmethod => plainNames_bindMethod h (h.methods method hmethod)

end StubGen
