import StubGen.Proofs.Imports
import StubGen.Proofs.Response
import StubGen.Run.Basic

/-!
# StubGen.Proofs.FrontEnds

The two ways to the same modules.  A run loads compiled files from a descriptor set: it converts
them all, in the order in which they stand there, drops what it has loaded before under the same
name, and sorts the rest.  The plugin converts the files that a request selects, by name.

Both look a file up by its name among all files, so that a name stands for one schema however often
it occurs (`convertNamed`).  Sorting schemas by their names is then the same as sorting the names
(`matches_insertSorted`, `matches_merge`), and the run goes on with the same schemas as the plugin
does for all names in ascending order (`front_ends_agree`).
-/

namespace StubGen

/-! ## Schemas by name -/

/-- A converted file has the name under which it was looked up. -/
theorem name_of_convertNamed {files : List FileDescriptor} {name : String} {schema : SchemaFile}
    (h : convertNamed files name = .ok schema) : schema.name = name := by
  unfold convertNamed at h
  cases hfind : fileNamed? files name with
  | none => simp [hfind] at h
  | some file =>
      have hname : file.name = name := by simpa using List.find?_some hfind
      simp only [hfind, convertFile, bind_eq_ok_iff] at h
      obtain ⟨services, _, hschema⟩ := h
      rw [← Except.ok.inj hschema, ← hname]

namespace Load

/-- Names in a list, and the schemas in the places of their names. -/
abbrev Matches (files : List FileDescriptor) : List String → List SchemaFile → Prop :=
  List.Forall₂ fun name schema => convertNamed files name = .ok schema

/-- A schema goes where its name goes. -/
theorem matches_insertSorted {files : List FileDescriptor} {name : String} {schema : SchemaFile}
    (h : convertNamed files name = .ok schema) {names : List String} {schemas : List SchemaFile}
    (hlists : Matches files names schemas) :
    Matches files (insertSorted false id name names)
      (insertSorted false SchemaFile.name schema schemas) := by
  induction hlists with
  | nil => exact .cons h .nil
  | @cons first firstSchema rest restSchemas hfirst hrest ih =>
      simp only [insertSorted, name_of_convertNamed h, name_of_convertNamed hfirst, id]
      by_cases heq : name = first
      · rw [if_pos heq, if_pos heq]
        exact .cons hfirst hrest
      · rw [if_neg heq, if_neg heq]
        by_cases hlt : name < first
        · rw [if_pos hlt, if_pos hlt]
          exact .cons h (.cons hfirst hrest)
        · rw [if_neg hlt, if_neg hlt]
          exact .cons hfirst ih

/-- Schemas are sorted as their names are. -/
theorem matches_foldl_insertSorted {files : List FileDescriptor} {names : List String}
    {schemas : List SchemaFile} (h : Matches files names schemas) :
    ∀ {sorted : List String} {loaded : List SchemaFile}, Matches files sorted loaded →
      Matches files (names.foldl (fun sorted name => insertSorted false id name sorted) sorted)
        (schemas.foldl (fun loaded schema => insertSorted false SchemaFile.name schema loaded)
          loaded) := by
  induction h with
  | nil => exact fun hloaded => hloaded
  | cons hfirst _ ih => exact fun hloaded => ih (matches_insertSorted hfirst hloaded)

/-- What is loaded first has the schemas of all names in ascending order, unless there are
well-known files among them. -/
theorem matches_merge {files : List FileDescriptor} {names : List String}
    {schemas : List SchemaFile} (h : Matches files names schemas)
    (hnames : ∀ name ∈ names, FileName.isWellKnown name = false) :
    Matches files (ascending names) (merge [] schemas) := by
  have hkept : schemas.filter (fun schema => !FileName.isWellKnown schema.name) = schemas := by
    rw [List.filter_eq_self]
    intro schema hschema
    obtain ⟨name, hname, hconvert⟩ := exists_of_mem_mapM (mapM_eq_ok_iff.mpr h) hschema
    rw [name_of_convertNamed hconvert, hnames name hname]
    rfl
  rw [merge, hkept]
  exact matches_foldl_insertSorted h .nil

end Load

/-! ## Loading a descriptor set -/

namespace Load

variable {settings : Settings} {site : Site} {world : World} {path : String} {data : Bytes}
  {files : List FileDescriptor}

/-- Converting a descriptor set that can be read keeps its records and passes on the result. -/
theorem schemasOf_apply (h : descriptorSet? data = some files) (selected : Option (List String)) :
    schemasOf data selected site world =
      ((schemaFiles files selected).mapError conversionFailure,
        { world with log := world.log ++ conversionLog files selected }) := by
  unfold schemasOf
  rw [h]
  simp only [Action.note_bind]
  cases schemaFiles files selected <;> rfl

/-- A descriptor set adds the schemas of all its files. -/
theorem loadSet_apply (hdata : world.tree.read site.workingDirectory
      (Path.tidy (Path.join site.workingDirectory path)) = .ok data)
    (hfiles : descriptorSet? data = some files) (loaded : List SchemaFile) :
    loadSet loaded path site world =
      (((schemaFiles files none).mapError conversionFailure).map (merge loaded),
        { world with log := world.log ++ conversionLog files none }) := by
  have hread : Action.readFile (Path.tidy (Path.join site.workingDirectory path)) site world =
      (.ok data, world) := by
    rw [Action.readFile, Action.site_bind, Action.tree_bind, hdata, Action.ofExcept_ok]
  have hschemas : schemasOf data none site world = _ := schemasOf_apply hfiles none
  rw [loadSet, Action.site_bind, Action.bind_of_ok hread]
  cases hconvert : schemaFiles files none with
  | error error =>
      rw [hconvert] at hschemas
      rw [Action.bind_of_error hschemas]
      rfl
  | ok schemas =>
      rw [hconvert] at hschemas
      rw [Action.bind_of_ok hschemas]
      rfl

/-- Where there is a single descriptor set, its schemas are all that is loaded. -/
theorem load_apply (hsets : settings.descriptorSets.listed = [path]) {result : _} {world' : World}
    (h : loadSet [] path site world = (result, world')) :
    load settings site world = (result, world') := by
  have hload : load settings = loadSet [] path >>= pure := by
    simp only [load, hsets, List.isEmpty_cons, Bool.not_false, if_true, List.foldlM_cons,
      List.foldlM_nil]
  rw [hload]
  cases result with
  | error failure => rw [Action.bind_of_error h]
  | ok schemas => rw [Action.bind_of_ok h, Action.pure_apply]

/-- If all files of a set can be converted, then those that a run loads are the schemas of their
names in ascending order. -/
theorem schemaFiles_ascending_of_ok
    (hnames : ∀ file ∈ files, FileName.isWellKnown file.name = false) {schemas : List SchemaFile}
    (h : schemaFiles files none = .ok schemas) :
    schemaFiles files (some (ascending (files.map FileDescriptor.name))) =
      .ok (merge [] schemas) := by
  have hmatches : Matches files (files.map FileDescriptor.name) schemas := mapM_eq_ok_iff.mp h
  refine mapM_eq_ok_iff.mpr (matches_merge hmatches ?_)
  simpa using hnames

/-- If some file of a set cannot be converted, then neither can all names in ascending order,
though another one may come first. -/
theorem schemaFiles_ascending_of_error {error : ConversionError}
    (h : schemaFiles files none = .error error) :
    ∃ other, schemaFiles files (some (ascending (files.map FileDescriptor.name))) =
      .error other := by
  cases hascending : schemaFiles files (some (ascending (files.map FileDescriptor.name))) with
  | error other => exact ⟨other, rfl⟩
  | ok schemas =>
      have hall : ∀ name ∈ files.map FileDescriptor.name,
          ∃ schema, convertNamed files name = .ok schema := by
        intro name hname
        exact exists_mapM_eq_ok_iff.mp ⟨schemas, hascending⟩ name
          (mem_ascending.mpr hname)
      obtain ⟨others, hothers⟩ := exists_mapM_eq_ok_iff.mpr hall
      rw [schemaFiles, selection, Option.getD_none, hothers] at h
      contradiction

end Load

/-! ## Agreement -/

/-- The modules that a run generates from what it has loaded. -/
theorem Run.generate_apply (schemas : List SchemaFile) (site : Site) (world : World) :
    (Run.generate schemas site world).1 = (Stub.generate schemas).mapError Failure.clash := by
  rw [Run.generate, Action.note_bind]
  cases Stub.generate schemas <;> rfl

/-- Files that are given as a descriptor set and files that are given to the plugin, which is asked
for all their names in ascending order, make the same modules in the same order, or none. -/
theorem front_ends_agree {settings : Settings} {site : Site} {world : World} {path : String}
    {data : Bytes} {request : Plugin.Request}
    (hsets : settings.descriptorSets.listed = [path])
    (hdata : world.tree.read site.workingDirectory
      (Path.tidy (Path.join site.workingDirectory path)) = .ok data)
    (hfiles : descriptorSet? data = some request.files)
    (hnames : ∀ file ∈ request.files, FileName.isWellKnown file.name = false)
    (horder : request.selected.Pairwise (· < ·))
    (hselected : ∀ name, name ∈ request.selected ↔ ∃ file ∈ request.files, file.name = name) :
    (∃ failure refusal, ((Load.load settings >>= Run.generate) site world).1 = .error failure ∧
      request.outputs = .error refusal) ∨
    ∃ outputs, ((Load.load settings >>= Run.generate) site world).1 = .ok outputs ∧
      request.outputs = .ok outputs := by
  have hascending : request.selected = ascending (request.files.map FileDescriptor.name) :=
    eq_ascending horder fun name => by rw [hselected, List.mem_map]
  have hload := Load.load_apply hsets (Load.loadSet_apply hdata hfiles [])
  rw [Plugin.Request.outputs, hascending]
  -- the front ends may give different reasons, since they convert the files in different orders
  cases hconvert : schemaFiles request.files none with
  | error error =>
      obtain ⟨other, hother⟩ := Load.schemaFiles_ascending_of_error hconvert
      rw [hconvert] at hload
      rw [Action.bind_of_error hload, hother]
      exact .inl ⟨_, _, rfl, rfl⟩
  | ok schemas =>
      rw [hconvert] at hload
      rw [Action.bind_of_ok hload, Run.generate_apply,
        Load.schemaFiles_ascending_of_ok hnames hconvert]
      cases hgenerate : Stub.generate (Load.merge [] schemas) with
      | error clash => exact .inl ⟨.clash clash, .clash clash, rfl, by simp only [hgenerate]⟩
      | ok outputs => exact .inr ⟨outputs, rfl, by simp only [hgenerate]⟩

/-- A descriptor set with two files of one name, and another one between them. -/
def repeatedSet : Bytes :=
  Wire.encodePayload 1 (Plugin.fileBytes "talk.proto" "Talk" [Plugin.methodBytes "Say"]) ++
    Wire.encodePayload 1 (Plugin.fileBytes "echo.proto" "Echo" [Plugin.methodBytes "Repeat"]) ++
    Wire.encodePayload 1 (Plugin.fileBytes "talk.proto" "Chat" [Plugin.methodBytes "Say"])

/-- A request for the files of this set. -/
def repeatedRequest : Plugin.Request where
  selected := ["echo.proto", "talk.proto"]
  files := (descriptorSet? repeatedSet).getD []

/-- A directory that holds the set, in which there are no programs to start. -/
def repeatedSite : Site where
  workingDirectory := "/work"
  temporaryFile := "/tmp/stub.py"
  temporaryDirectory := "/tmp/directory"
  programs _ _ := .error (.other "no programs")

/-- The file system that this directory is part of. -/
def repeatedWorld : World where
  tree := ⟨[(["work"], .directory), (["work", "talk.bin"], .file repeatedSet)]⟩

theorem front_ends_agree_repeated :
    ∃ outputs, outputs.map Stub.Output.name = ["echo_pb2_rsocket.py", "talk_pb2_rsocket.py"] ∧
      ((Load.load (.ofOptions { descriptorSets := ["talk.bin"] }) >>= Run.generate)
        repeatedSite repeatedWorld).1 = .ok outputs ∧
      repeatedRequest.outputs = .ok outputs := by
  have hread : repeatedWorld.tree.read repeatedSite.workingDirectory
      (Path.tidy (Path.join repeatedSite.workingDirectory "talk.bin")) = .ok repeatedSet := by
    decide +kernel
  have hset : descriptorSet? repeatedSet = some repeatedRequest.files := by
    have hsome : (descriptorSet? repeatedSet).isSome := by decide +kernel
    obtain ⟨files, hfiles⟩ := Option.isSome_iff_exists.mp hsome
    rw [repeatedRequest, hfiles, Option.getD_some]
  have hnames : repeatedRequest.files.map FileDescriptor.name =
      ["talk.proto", "echo.proto", "talk.proto"] := by
    decide +kernel
  have hselected (name : String) : name ∈ repeatedRequest.selected ↔
      ∃ file ∈ repeatedRequest.files, file.name = name := by
    rw [← List.mem_map, hnames, repeatedRequest]
    simp only [List.mem_cons, List.not_mem_nil]
    tauto
  have houtputs : repeatedRequest.outputs.map (·.map Stub.Output.name) =
      .ok ["echo_pb2_rsocket.py", "talk_pb2_rsocket.py"] := by
    decide +kernel
  have hlisted : (Settings.ofOptions { descriptorSets := ["talk.bin"] }).descriptorSets.listed =
      ["talk.bin"] := rfl
  rcases front_ends_agree hlisted hread hset (by decide +kernel) (by decide) hselected with
    ⟨failure, refusal, _, hrefused⟩ | ⟨outputs, hrun, hrequest⟩
  · rw [hrefused] at houtputs
    cases houtputs
  · rw [hrequest] at houtputs
    exact ⟨outputs, Except.ok.inj houtputs, hrun, hrequest⟩

end StubGen
