import StubGen.Proofs.Refusal
import StubGen.Proofs.Resolution
import StubGen.Proofs.WireGrammar

/-!
# StubGen.Proofs.Selection

Which selections of files are converted, and to what.

1. A selection asks for some things in order (`requirements`): that the file of a name is there,
   that the types of its methods are declared, and that the options of its methods are messages.
2. Each part of the conversion checks its own requirements: it succeeds only if all are met, and
   fails for the first that is not (`Checks`).  Checks are put together as the conversion is
   (`Checks.bind`, `checks_mapM`), up to the whole selection (`checks_schemaFiles`).
3. What comes out of a conversion has the parts of its descriptor in the same order, with types
   resolved (`ConvertedFile`).
-/

namespace StubGen

open Wire

/-! ## Requirements -/

/-- Bytes that are a message. -/
def IsSomeMessage (bytes : Bytes) : Prop :=
  ∃ fields, IsMessage shortLimit nestingLimit bytes fields

/-- What a selection of files asks for. -/
inductive Requirement where
  /-- There is a file of this name. -/
  | file (name : String)
  /-- Some file declares a type of this full name. -/
  | type (fullName : String)
  /-- The payload of an option is a message. -/
  | option (payload : Bytes)
deriving DecidableEq, Repr

namespace Requirement

/-- A requirement that some files meet. -/
def Met (files : List FileDescriptor) : Requirement → Prop
  | .file name => ∃ file ∈ files, file.name = name
  | .type fullName => ∃ file ∈ files, file.Declares fullName
  | .option payload => ∃ fields, IsMessage shortLimit nestingLimit payload fields

/-- What is wrong if a requirement is not met. -/
def failure : Requirement → ConversionError
  | .file name => .unknownFile name
  | .type fullName => .unknownType fullName
  | .option _ => .malformedOption

end Requirement

/-- The types of a method come before its options. -/
def MethodDescriptor.requirements (method : MethodDescriptor) : List Requirement :=
  .type (bareTypeName method.inputType) :: .type (bareTypeName method.outputType) ::
    (payloads flagOptionField method.options).map .option

def ServiceDescriptor.requirements (service : ServiceDescriptor) : List Requirement :=
  service.methods.flatMap MethodDescriptor.requirements

def FileDescriptor.requirements (file : FileDescriptor) : List Requirement :=
  file.services.flatMap ServiceDescriptor.requirements

/-- A selected file has to be there, and its methods have requirements of their own. -/
def requirementsOf (files : List FileDescriptor) (name : String) : List Requirement :=
  .file name :: ((lastNamed? files name).map FileDescriptor.requirements).getD []

/-- What a selection asks for, in the order in which it is looked at. -/
def requirements (files : List FileDescriptor) (names : List String) : List Requirement :=
  names.flatMap (requirementsOf files)

/-- The first requirement that is not met, by what is wrong then. -/
def FirstUnmet (files : List FileDescriptor) (requirements : List Requirement)
    (error : ConversionError) : Prop :=
  FirstBad (Requirement.Met files)
    (fun requirement => ¬ requirement.Met files ∧ requirement.failure = error) requirements

/-! ## Checks -/

/-- A conversion that succeeds only if all requirements are met, and fails only for the first that
is not. -/
def Checks (files : List FileDescriptor) (requirements : List Requirement) :
    Except ConversionError α → Prop
  | .ok _ => ∀ requirement ∈ requirements, requirement.Met files
  | .error error => FirstUnmet files requirements error

section

variable {files : List FileDescriptor} {first second : List Requirement}
  {action : Except ConversionError α}

theorem FirstUnmet.not_met {error : ConversionError} (h : FirstUnmet files first error) :
    ¬ ∀ requirement ∈ first, requirement.Met files := by
  obtain ⟨before, requirement, after, rfl, _, hunmet, _⟩ := h
  exact fun hmet => hunmet (hmet requirement (by simp))

/-- There is one first requirement that is not met. -/
theorem FirstUnmet.unique {error other : ConversionError} (h : FirstUnmet files first error)
    (hother : FirstUnmet files first other) : error = other := by
  induction first with
  | nil => exact absurd h firstBad_nil
  | cons requirement first ih =>
      rw [FirstUnmet, firstBad_cons] at h hother
      rcases h with ⟨hunmet, rfl⟩ | ⟨hmet, h⟩
      · rcases hother with ⟨_, rfl⟩ | ⟨hmet, _⟩
        · rfl
        · contradiction
      · rcases hother with ⟨hunmet, _⟩ | ⟨_, hother⟩
        · contradiction
        · exact ih h hother

/-- A conversion succeeds exactly if all requirements are met. -/
theorem Checks.exists_iff (h : Checks files first action) :
    (∃ value, action = .ok value) ↔ ∀ requirement ∈ first, requirement.Met files := by
  cases action with
  | ok value => exact ⟨fun _ => h, fun _ => ⟨value, rfl⟩⟩
  | error error => simpa using FirstUnmet.not_met h

/-- A conversion fails exactly for the first requirement that is not met. -/
theorem Checks.eq_error_iff (h : Checks files first action) {error : ConversionError} :
    action = .error error ↔ FirstUnmet files first error := by
  cases action with
  | ok value => simpa using fun hunmet => FirstUnmet.not_met hunmet h
  | error found =>
      rw [Except.error.injEq]
      exact ⟨fun heq => heq ▸ h, fun hunmet => FirstUnmet.unique h hunmet⟩

/-- What comes next is checked where all requirements so far are met. -/
theorem Checks.bind {next : α → Except ConversionError β} (h : Checks files first action)
    (hnext : ∀ value, Checks files second (next value)) :
    Checks files (first ++ second) (action >>= next) := by
  cases action with
  | error error => exact firstBad_append.mpr (.inl h)
  | ok value =>
      have hvalue := hnext value
      simp only [bind, Except.bind]
      cases hresult : next value with
      | error error =>
          rw [hresult] at hvalue
          exact firstBad_append.mpr (.inr ⟨h, hvalue⟩)
      | ok result =>
          rw [hresult] at hvalue
          exact List.forall_mem_append.mpr ⟨h, hvalue⟩

theorem checks_pure (value : α) : Checks files [] (pure value) :=
  List.forall_mem_nil _

/-- A conversion whose result is put to use. -/
theorem Checks.bind_pure {f : α → β} (h : Checks files first action) :
    Checks files first (action >>= fun value => pure (f value)) := by
  have hbind := h.bind fun value => checks_pure (f value)
  rwa [List.append_nil] at hbind

/-- Inputs that are converted one after the other are checked one after the other. -/
theorem checks_mapM {convert : α → Except ConversionError β} {asked : α → List Requirement}
    (h : ∀ input, Checks files (asked input) (convert input)) (inputs : List α) :
    Checks files (inputs.flatMap asked) (inputs.mapM convert) := by
  induction inputs with
  | nil => exact checks_pure []
  | cons input inputs ih =>
      rw [List.flatMap_cons, List.mapM_cons]
      exact (h input).bind fun _ => ih.bind_pure

/-- What becomes of a result does not matter to the checks. -/
theorem checks_map {f : α → β} (h : Checks files first action) :
    Checks files first (action.map f) := by
  cases action <;> exact h

/-- A requirement that is met may come first. -/
theorem Checks.cons_met {requirement : Requirement} (hmet : requirement.Met files)
    (h : Checks files first action) : Checks files (requirement :: first) action := by
  cases action with
  | ok value => exact List.forall_mem_cons.mpr ⟨hmet, h⟩
  | error error => exact firstBad_cons.mpr (.inr ⟨hmet, h⟩)

/-- A requirement that is not met is the first one if nothing comes before it. -/
theorem firstUnmet_cons {requirement : Requirement} (h : ¬ requirement.Met files) :
    FirstUnmet files (requirement :: first) requirement.failure :=
  firstBad_cons.mpr (.inl ⟨h, rfl⟩)

end

/-! ## Checks of the conversion -/

section

variable (files : List FileDescriptor)

/-- Resolving a type asks for a type of that name. -/
theorem checks_resolveType (name : String) :
    Checks files [.type (bareTypeName name)] (resolveType (TypeIndex.ofFiles files) name) := by
  unfold resolveType
  cases hfind : (TypeIndex.ofFiles files).find? (bareTypeName name) with
  | none =>
      refine firstUnmet_cons ?_
      rintro ⟨file, hfile, hdeclares⟩
      exact find?_ofFiles_eq_none_iff.mp hfind file hfile hdeclares
  | some record =>
      obtain ⟨file, hlast, _⟩ := find?_ofFiles_eq_some_iff.mp hfind
      exact List.forall_mem_singleton.mpr ⟨file, hlast.mem, hlast.1⟩

/-- Reading flags asks for options that are messages. -/
theorem checks_optionFlags (options : List Bytes) :
    Checks files (options.map .option) (optionFlags options) := by
  induction options with
  | nil => exact checks_pure []
  | cons payload options ih =>
      rw [optionFlags, List.map_cons]
      cases hfields : fields? payload with
      | none =>
          refine firstUnmet_cons ?_
          rintro ⟨fields, hmessage⟩
          rw [← fieldsUpTo?_eq_some_iff] at hmessage
          rw [fields?, hmessage] at hfields
          contradiction
      | some fields => exact (checks_map ih).cons_met ⟨fields, fieldsUpTo?_eq_some_iff.mp hfields⟩

/-- Reading whether a method is marked asks for options that are messages. -/
theorem checks_readFireAndForget (options : List Wire.Field) :
    Checks files ((payloads flagOptionField options).map .option) (readFireAndForget options) :=
  checks_map (checks_optionFlags files _)

/-- Converting a method asks for what the method requires. -/
theorem checks_convertMethod (position : Nat) (entry : MethodDescriptor × Nat) :
    Checks files entry.1.requirements
      (convertMethod (TypeIndex.ofFiles files) position entry) :=
  (checks_resolveType files _).bind fun _ => (checks_resolveType files _).bind fun _ =>
    (checks_readFireAndForget files _).bind_pure

/-- Converting a service asks for what its methods require. -/
theorem checks_convertService (package : String) (entry : ServiceDescriptor × Nat) :
    Checks files entry.1.requirements
      (convertService (TypeIndex.ofFiles files) package entry) := by
  have hmethods := checks_mapM (checks_convertMethod files entry.2) entry.1.methods.zipIdx
  rw [flatMap_zipIdx MethodDescriptor.requirements] at hmethods
  exact hmethods.bind_pure

/-- Converting a file asks for what its services require. -/
theorem checks_convertFile (file : FileDescriptor) :
    Checks files file.requirements (convertFile (TypeIndex.ofFiles files) file) := by
  have hservices := checks_mapM (checks_convertService files file.package) file.services.zipIdx
  rw [flatMap_zipIdx ServiceDescriptor.requirements] at hservices
  exact hservices.bind_pure

/-- Converting a file by its name also asks for a file of that name. -/
theorem checks_convertNamed (name : String) :
    Checks files (requirementsOf files name) (convertNamed files name) := by
  rw [convertNamed, requirementsOf, fileNamed?_eq_lastNamed?]
  cases hfile : lastNamed? files name with
  | none =>
      refine firstUnmet_cons ?_
      rintro ⟨file, hmem, hname⟩
      exact lastNamed?_eq_none_iff.mp hfile file hmem hname
  | some file =>
      exact (checks_convertFile files file).cons_met ⟨file, of_lastNamed?_eq_some hfile⟩

/-- A selection is converted if it asks for nothing that is not there, and else fails for the first
such thing. -/
theorem checks_schemaFiles (selected : Option (List String)) :
    Checks files (requirements files (selection files selected)) (schemaFiles files selected) :=
  checks_mapM (checks_convertNamed files) _

end

/-! ## Selections that can be converted -/

/-- A method whose types are declared and whose options are messages. -/
def MethodDescriptor.Resolvable (files : List FileDescriptor) (method : MethodDescriptor) : Prop :=
  (∃ file ∈ files, file.Declares (bareTypeName method.inputType)) ∧
  (∃ file ∈ files, file.Declares (bareTypeName method.outputType)) ∧
  ∀ payload ∈ payloads flagOptionField method.options,
    ∃ fields, IsMessage shortLimit nestingLimit payload fields

/-- A name whose last file is there, with methods that can be converted. -/
def Resolvable (files : List FileDescriptor) (name : String) : Prop :=
  ∃ file, lastNamed? files name = some file ∧
    ∀ service ∈ file.services, ∀ method ∈ service.methods, method.Resolvable files

/-- A name can be resolved if all that it requires is there. -/
theorem forall_met_requirementsOf_iff {files : List FileDescriptor} {name : String} :
    (∀ requirement ∈ requirementsOf files name, requirement.Met files) ↔
      Resolvable files name := by
  have hmethod (method : MethodDescriptor) :
      (∀ requirement ∈ method.requirements, requirement.Met files) ↔ method.Resolvable files := by
    simp only [MethodDescriptor.requirements, List.forall_mem_cons, List.forall_mem_map]
    rfl
  have hfile (file : FileDescriptor) :
      (∀ requirement ∈ file.requirements, requirement.Met files) ↔
        ∀ service ∈ file.services, ∀ method ∈ service.methods, method.Resolvable files := by
    simp only [FileDescriptor.requirements, ServiceDescriptor.requirements, List.forall_mem_flatMap,
      hmethod]
  rw [requirementsOf, List.forall_mem_cons, Resolvable]
  cases hlast : lastNamed? files name with
  | none => simpa [Requirement.Met] using lastNamed?_eq_none_iff.mp hlast
  | some file =>
      have hmet : (Requirement.file name).Met files := ⟨file, of_lastNamed?_eq_some hlast⟩
      simp [hmet, hfile]

/-! ## What a selection is converted to -/

/-- The schema of a method: its types are resolved, and it is fire-and-forget if the last flag in
its options is set. -/
structure ConvertedMethod (files : List FileDescriptor) (servicePosition : Nat)
    (entry : MethodDescriptor × Nat) (method : Method) : Prop where
  name : method.name = entry.1.name
  input : ResolvesTo files (bareTypeName entry.1.inputType) method.input
  output : ResolvesTo files (bareTypeName entry.1.outputType) method.output
  clientStreaming : method.clientStreaming = entry.1.clientStreaming
  serverStreaming : method.serverStreaming = entry.1.serverStreaming
  fireAndForget : ∃ contents,
    List.Forall₂ (IsMessage shortLimit nestingLimit) (payloads flagOptionField entry.1.options)
      contents ∧
    method.fireAndForget = ((contents.flatMap (numbersAt 1)).getLastD 0 != 0)
  location : method.location = [6, servicePosition, 2, entry.2]

/-- The schema of a service: its methods in order, by their positions. -/
structure ConvertedService (files : List FileDescriptor) (package : String)
    (entry : ServiceDescriptor × Nat) (service : Service) : Prop where
  name : service.name = entry.1.name
  fullName : service.fullName = qualify package entry.1.name
  methods : List.Forall₂ (ConvertedMethod files entry.2) entry.1.methods.zipIdx service.methods
  location : service.location = [6, entry.2]

/-- The schema of a file that was selected by name: its services in order, by their positions. -/
structure ConvertedFile (files : List FileDescriptor) (name : String) (file : FileDescriptor)
    (schema : SchemaFile) : Prop where
  found : lastNamed? files name = some file
  name : schema.name = name
  package : schema.package = file.package
  services : List.Forall₂ (ConvertedService files file.package) file.services.zipIdx schema.services
  dependencies : schema.dependencies = file.dependencies
  hasMessages : schema.hasMessages = !file.messages.isEmpty
  comments : schema.comments = readComments file

/-- A type name is resolved to the last type that is declared under it. -/
theorem resolvesTo_of_resolveType {files : List FileDescriptor} {name : String}
    {record : RecordType} (h : resolveType (TypeIndex.ofFiles files) name = .ok record) :
    ResolvesTo files (bareTypeName name) record := by
  rw [← find?_ofFiles_eq_some_iff]
  unfold resolveType at h
  split at h
  · next found hfind => rw [hfind, Except.ok.inj h]
  · contradiction

/-- Flags are the numbers in the options, which are messages. -/
theorem exists_contents_of_optionFlags {options : List Bytes} {flags : List Nat}
    (h : optionFlags options = .ok flags) :
    ∃ contents, List.Forall₂ (IsMessage shortLimit nestingLimit) options contents ∧
      flags = contents.flatMap (numbersAt 1) := by
  induction options generalizing flags with
  | nil => exact ⟨[], .nil, (Except.ok.inj h).symm⟩
  | cons payload options ih =>
      rw [optionFlags] at h
      cases hfields : fields? payload with
      | none => simp [hfields] at h
      | some fields =>
          simp only [hfields] at h
          obtain ⟨others, hothers, rfl⟩ := map_eq_ok_iff.mp h
          obtain ⟨contents, hcontents, rfl⟩ := ih hothers
          exact ⟨fields :: contents, .cons (fieldsUpTo?_eq_some_iff.mp hfields) hcontents, rfl⟩

/-- A method is marked if the last flag in its options is set. -/
theorem exists_contents_of_readFireAndForget {options : List Wire.Field} {flag : Bool}
    (h : readFireAndForget options = .ok flag) :
    ∃ contents, List.Forall₂ (IsMessage shortLimit nestingLimit) (payloads flagOptionField options)
        contents ∧ flag = ((contents.flatMap (numbersAt 1)).getLastD 0 != 0) := by
  rw [readFireAndForget] at h
  obtain ⟨flags, hflags, rfl⟩ := map_eq_ok_iff.mp h
  obtain ⟨contents, hcontents, rfl⟩ := exists_contents_of_optionFlags hflags
  exact ⟨contents, hcontents, rfl⟩

/-- A converted method has its types resolved, and its mark read from its options. -/
theorem convertedMethod_of_convertMethod {files : List FileDescriptor} {position : Nat}
    {entry : MethodDescriptor × Nat} {method : Method}
    (h : convertMethod (TypeIndex.ofFiles files) position entry = .ok method) :
    ConvertedMethod files position entry method := by
  simp only [convertMethod, bind_eq_ok_iff] at h
  obtain ⟨input, hinput, output, houtput, flag, hflag, hmethod⟩ := h
  rw [← Except.ok.inj hmethod]
  exact {
    name := rfl
    input := resolvesTo_of_resolveType hinput
    output := resolvesTo_of_resolveType houtput
    clientStreaming := rfl
    serverStreaming := rfl
    fireAndForget := exists_contents_of_readFireAndForget hflag
    location := rfl }

/-- A converted service has its methods converted in order. -/
theorem convertedService_of_convertService {files : List FileDescriptor} {package : String}
    {entry : ServiceDescriptor × Nat} {service : Service}
    (h : convertService (TypeIndex.ofFiles files) package entry = .ok service) :
    ConvertedService files package entry service := by
  simp only [convertService, bind_eq_ok_iff] at h
  obtain ⟨methods, hmethods, hservice⟩ := h
  rw [← Except.ok.inj hservice]
  exact {
    name := rfl
    fullName := rfl
    methods := (mapM_eq_ok_iff.mp hmethods).imp fun _ _ => convertedMethod_of_convertMethod
    location := rfl }

/-- A name is converted from the last file that has it, with the services in order. -/
theorem convertedFile_of_convertNamed {files : List FileDescriptor} {name : String}
    {schema : SchemaFile} (h : convertNamed files name = .ok schema) :
    ∃ file, ConvertedFile files name file schema := by
  rw [convertNamed, fileNamed?_eq_lastNamed?] at h
  cases hfile : lastNamed? files name with
  | none => simp [hfile] at h
  | some file =>
      simp only [hfile, convertFile, bind_eq_ok_iff] at h
      obtain ⟨services, hservices, hschema⟩ := h
      rw [← Except.ok.inj hschema]
      exact ⟨file, {
        found := hfile
        name := (of_lastNamed?_eq_some hfile).2
        package := rfl
        services := (mapM_eq_ok_iff.mp hservices).imp fun _ _ => convertedService_of_convertService
        dependencies := rfl
        hasMessages := rfl
        comments := rfl }⟩

/-- **A selection is converted exactly if it can be, and faithfully.**  It is converted if for each
name there is a file of that name, and the methods of the last such file have types that some file
declares and options that are messages.  Otherwise the first thing that is asked for and not there
is the reason, in the order of names, services, methods, and of input type, output type and options
within a method.  The schemas stand for the selected names in order, each with the services and
methods of its file in order, at their positions and with their types resolved. -/
theorem selection_converted_exactly (files : List FileDescriptor)
    (selected : Option (List String)) :
    ((∃ schemas, schemaFiles files selected = .ok schemas) ↔
      ∀ name ∈ selection files selected, Resolvable files name) ∧
    (∀ error, schemaFiles files selected = .error error ↔
      FirstUnmet files (requirements files (selection files selected)) error) ∧
    ∀ schemas, schemaFiles files selected = .ok schemas →
      List.Forall₂ (fun name schema => ∃ file, ConvertedFile files name file schema)
        (selection files selected) schemas := by
  have hchecks := checks_schemaFiles files selected
  have hmet : (∀ requirement ∈ requirements files (selection files selected),
      requirement.Met files) ↔ ∀ name ∈ selection files selected, Resolvable files name := by
    simp only [requirements, List.forall_mem_flatMap, forall_met_requirementsOf_iff]
  exact ⟨hchecks.exists_iff.trans hmet, fun _ => hchecks.eq_error_iff, fun _ h =>
    (mapM_eq_ok_iff.mp h).imp fun _ _ => convertedFile_of_convertNamed⟩

/-- A file that declares types, and that another file of its name takes the place of. -/
def formerTalkFile : FileDescriptor where
  name := "talk.proto"
  package := "former"
  messages := [⟨"Text", [⟨"Mark", []⟩]⟩]
  services := [{ name := "Lost", methods := [{ inputType := "Nothing" }] }]

/-- A file with a method on the types of the former file, and with a flag in its options. -/
def latterTalkFile : FileDescriptor where
  name := "talk.proto"
  services := [{ name := "Talk", methods :=
    [{ name := "Say", inputType := "..former.Text", outputType := "former.Text.Mark",
       options := [⟨flagOptionField, .bytes [0x08, 0x01]⟩] }] }]

theorem selection_converted_exactly_repeated :
    (∃ schemas, schemaFiles [formerTalkFile, latterTalkFile] (some ["talk.proto", "talk.proto"]) =
        .ok schemas ∧
      List.Forall₂ (fun name schema => ∃ file,
          ConvertedFile [formerTalkFile, latterTalkFile] name file schema)
        ["talk.proto", "talk.proto"] schemas) ∧
    FirstUnmet [latterTalkFile] (requirements [latterTalkFile] ["talk.proto", "gone.proto"])
      (.unknownType "former.Text") := by
  have haccepted : (schemaFiles [formerTalkFile, latterTalkFile]
      (some ["talk.proto", "talk.proto"])).toBool = true := by decide +kernel
  have hrefused : schemaFiles [latterTalkFile] (some ["talk.proto", "gone.proto"]) =
      .error (.unknownType "former.Text") := rfl
  refine ⟨?_, ((selection_converted_exactly _ _).2.1 _).mp hrefused⟩
  cases hschemas : schemaFiles [formerTalkFile, latterTalkFile]
      (some ["talk.proto", "talk.proto"]) with
  | error error =>
      rw [hschemas] at haccepted
      contradiction
  | ok schemas => exact ⟨schemas, rfl, (selection_converted_exactly _ _).2.2 _ hschemas⟩

end StubGen
