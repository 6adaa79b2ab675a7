import StubGen.Proofs.Keyed
import StubGen.Proofs.RepeatedRun
import StubGen.Proofs.Resolution

/-!
# StubGen.Proofs.MergedSets

What is loaded from several descriptor sets.  The schemas that have been loaded are seen through the
one question which schema there is of a name (`schemaNamed?`).

1. Adding a schema answers the question for its name if there was no answer before, and for no other
   name (`schemaNamed?_insertSorted`).  So the schemas of a set count for all names that no earlier
   set has (`merge_spec`).
2. All schemas of one set and one name are the same, namely that of the last file of the name
   (`schemaNamed?_of_schemaFiles`).
3. The schema of a name comes from the first set that has the name (`foldlM_loadSet`).  The answers
   determine what is loaded (`eq_of_find?_eq`), and if sets with a common name have the same answer,
   it does not matter which of them is first (`findSome?_congr_of_agree`).
-/

namespace StubGen

namespace Load

/-! ## Schemas by name -/

/-- The schema of a name. -/
def schemaNamed? (schemas : List SchemaFile) (name : String) : Option SchemaFile :=
  schemas.find? fun schema => schema.name == name

/-- Schemas in strictly ascending order of their names, by code point. -/
def Ascending (schemas : List SchemaFile) : Prop :=
  schemas.Pairwise fun first second => first.name < second.name

/-- The first schema of a name counts. -/
theorem schemaNamed?_cons (schema : SchemaFile) (schemas : List SchemaFile) (name : String) :
    schemaNamed? (schema :: schemas) name =
      if schema.name = name then some schema else schemaNamed? schemas name := by
  by_cases h : schema.name = name <;> simp [schemaNamed?, h]

theorem of_schemaNamed?_eq_some {schemas : List SchemaFile} {name : String} {schema : SchemaFile}
    (h : schemaNamed? schemas name = some schema) : schema ∈ schemas ∧ schema.name = name :=
  ⟨List.mem_of_find?_eq_some h, by simpa using List.find?_some h⟩

/-! ## Adding schemas -/

/-- A schema is added if there is none of its name. -/
theorem schemaNamed?_insertSorted {loaded : List SchemaFile} (h : Ascending loaded)
    (file : SchemaFile) (name : String) :
    schemaNamed? (insertSorted false SchemaFile.name file loaded) name =
      (schemaNamed? loaded name).or (if file.name = name then some file else none) := by
  rw [schemaNamed?, find?_insertSorted h, ← schemaNamed?]
  by_cases hname : file.name = name
  · rw [if_pos hname, if_pos hname]
    rfl
  · rw [if_neg hname, if_neg hname, Option.or_none]

/-- The schemas of a set count for the names that are not there yet and not well known. -/
theorem merge_spec {loaded : List SchemaFile} (h : Ascending loaded) (files : List SchemaFile) :
    Ascending (merge loaded files) ∧ ∀ name, schemaNamed? (merge loaded files) name =
      (schemaNamed? loaded name).or
        (if FileName.isWellKnown name then none else schemaNamed? files name) := by
  unfold merge
  -- the answer for a name is settled by the first file that has it, here as in `schemaNamed?_cons`
  induction files generalizing loaded with
  | nil => exact ⟨h, fun name => by simp [schemaNamed?]⟩
  | cons file rest ih =>
      rw [List.filter_cons]
      cases hfile : FileName.isWellKnown file.name with
      | true =>
          obtain ⟨horder, hnamed⟩ := ih h
          refine ⟨horder, fun name => ?_⟩
          simp only [Bool.not_true, Bool.false_eq_true, if_false]
          rw [hnamed, schemaNamed?_cons]
          by_cases hname : file.name = name
          · rw [← hname, hfile]
            simp
          · rw [if_neg hname]
      | false =>
          have hinsert : Ascending (insertSorted false SchemaFile.name file loaded) :=
            pairwise_insertSorted h
          obtain ⟨horder, hnamed⟩ := ih hinsert
          refine ⟨horder, fun name => ?_⟩
          simp only [Bool.not_false, if_true, List.foldl_cons]
          rw [hnamed, schemaNamed?_insertSorted h, schemaNamed?_cons, Option.or_assoc]
          by_cases hname : file.name = name
          · rw [← hname, hfile]
            simp
          · rw [if_neg hname, if_neg hname, Option.none_or]

/-! ## The schemas of one set -/

/-- Files that can all be converted. -/
def Converts (files : List FileDescriptor) : Prop :=
  ∃ schemas, schemaFiles files none = .ok schemas

instance (files : List FileDescriptor) : Decidable (Converts files) :=
  decidable_of_iff ((schemaFiles files none).toBool = true) <| by
    unfold Converts
    cases schemaFiles files none <;> simp [Except.toBool]

/-- The schema that a set has for a name. -/
def contributed? (name : String) (files : List FileDescriptor) : Option SchemaFile :=
  if FileName.isWellKnown name then none else (convertNamed files name).toOption

/-- A name is converted from the last file that has it. -/
theorem exists_lastNamed?_of_convertNamed {files : List FileDescriptor} {name : String}
    {schema : SchemaFile} (h : convertNamed files name = .ok schema) :
    ∃ file, lastNamed? files name = some file ∧
      convertFile (TypeIndex.ofFiles files) file = .ok schema := by
  rw [convertNamed, fileNamed?_eq_lastNamed?] at h
  cases hlast : lastNamed? files name with
  | none => simp [hlast] at h
  | some file =>
      rw [hlast] at h
      exact ⟨file, rfl, h⟩

/-- Where all files can be converted, a name can be if some file has it. -/
theorem Converts.exists_iff {files : List FileDescriptor} (h : Converts files) {name : String} :
    (∃ schema, convertNamed files name = .ok schema) ↔ ∃ file ∈ files, file.name = name := by
  constructor
  · rintro ⟨schema, hschema⟩
    obtain ⟨file, hlast, _⟩ := exists_lastNamed?_of_convertNamed hschema
    exact ⟨file, of_lastNamed?_eq_some hlast⟩
  · rintro ⟨file, hfile, rfl⟩
    exact exists_mapM_eq_ok_iff.mp h file.name (List.mem_map_of_mem hfile)

/-- All schemas of one name in a set are the same. -/
theorem schemaNamed?_of_matches {files : List FileDescriptor} {names : List String}
    {schemas : List SchemaFile} (h : Matches files names schemas) (name : String) :
    schemaNamed? schemas name =
      if name ∈ names then (convertNamed files name).toOption else none := by
  induction h with
  | nil => rfl
  | @cons first schema names schemas hfirst _ ih =>
      rw [schemaNamed?_cons, name_of_convertNamed hfirst, ih]
      by_cases hname : first = name
      · rw [if_pos hname, if_pos (by simp [hname]), ← hname, hfirst]
        rfl
      · simp [hname, Ne.symm hname]

/-- The schemas of all files, looked up by name, are those that the names are converted to. -/
theorem schemaNamed?_of_schemaFiles {files : List FileDescriptor} {schemas : List SchemaFile}
    (h : schemaFiles files none = .ok schemas) (name : String) :
    schemaNamed? schemas name = (convertNamed files name).toOption := by
  rw [schemaNamed?_of_matches (mapM_eq_ok_iff.mp h)]
  split
  · rfl
  · next hname =>
      cases hconvert : convertNamed files name with
      | error error => rfl
      | ok schema =>
          obtain ⟨file, hfile, rfl⟩ := (Converts.exists_iff ⟨schemas, h⟩).mp ⟨schema, hconvert⟩
          exact absurd (List.mem_map_of_mem hfile) hname

/-! ## Several sets -/

/-- A path that leads to a descriptor set with these files. -/
def HoldsSet (here : Site) (world : World) (path : String) (files : List FileDescriptor) : Prop :=
  ∃ data, world.tree.read here.workingDirectory (setPath here path) = .ok data ∧
    descriptorSet? data = some files

/-- A path leads to one descriptor set at most. -/
theorem HoldsSet.unique {here : Site} {world : World} {path : String}
    {first second : List FileDescriptor} (hfirst : HoldsSet here world path first)
    (hsecond : HoldsSet here world path second) : first = second := by
  obtain ⟨data, hdata, hfiles⟩ := hfirst
  obtain ⟨other, hother, hothers⟩ := hsecond
  rw [hdata] at hother
  rw [Except.ok.inj hother, hothers] at hfiles
  exact (Option.some.inj hfiles).symm

/-- The sets are those at the paths, in whatever order. -/
theorem mem_sets_iff {here : Site} {world : World} {paths : List String}
    {sets : List (List FileDescriptor)} (h : List.Forall₂ (HoldsSet here world) paths sets)
    {files : List FileDescriptor} :
    files ∈ sets ↔ ∃ path ∈ paths, HoldsSet here world path files := by
  induction h with
  | nil => simp
  | cons hfirst _ ih =>
      simp only [List.mem_cons, ih, exists_eq_or_imp]
      constructor
      · rintro (rfl | hrest)
        · exact .inl hfirst
        · exact .inr hrest
      · rintro (hother | hrest)
        · exact .inl (hother.unique hfirst)
        · exact .inr hrest

/-- The schema of a name comes from the first set that has it. -/
theorem foldlM_loadSet {here : Site} {world : World} {paths : List String}
    {sets : List (List FileDescriptor)} (h : List.Forall₂ (HoldsSet here world) paths sets)
    (hconvert : ∀ files ∈ sets, Converts files) {loaded : List SchemaFile}
    (horder : Ascending loaded) {before : World} (htree : before.tree = world.tree) :
    ∃ result, (paths.foldlM loadSet loaded here before).1 = .ok result ∧ Ascending result ∧
      ∀ name, schemaNamed? result name =
        (schemaNamed? loaded name).or (sets.findSome? (contributed? name)) := by
  -- loading changes the log and no file, so only the file system is kept along the induction
  induction h generalizing loaded before with
  | nil => exact ⟨loaded, rfl, horder, fun name => by simp⟩
  | @cons path files paths sets hset _ ih =>
      obtain ⟨⟨schemas, hschemas⟩, hrest⟩ := List.forall_mem_cons.mp hconvert
      obtain ⟨data, hdata, hfiles⟩ := hset
      rw [← htree] at hdata
      have hload := loadSet_apply hdata hfiles loaded
      rw [hschemas] at hload
      obtain ⟨hmerged, hnamed⟩ := merge_spec horder schemas
      have hafter : ({ before with log := before.log ++ conversionLog files none } : World).tree =
          world.tree := htree
      obtain ⟨result, hresult, hresultOrder, hresultNamed⟩ := ih hrest hmerged hafter
      refine ⟨result, ?_, hresultOrder, fun name => ?_⟩
      · rw [List.foldlM_cons, Action.bind_of_ok hload]
        exact hresult
      · rw [hresultNamed, hnamed, schemaNamed?_of_schemaFiles hschemas, Option.or_assoc,
          List.findSome?_cons, ← contributed?]
        cases contributed? name files <;> rfl

/-- A set contributes a schema for each of its names that is not well known. -/
theorem contributed?_eq_some_iff {name : String} {files : List FileDescriptor}
    {schema : SchemaFile} :
    contributed? name files = some schema ↔
      FileName.isWellKnown name = false ∧ convertNamed files name = .ok schema := by
  unfold contributed?
  cases FileName.isWellKnown name with
  | true => simp
  | false => cases convertNamed files name <;> simp [Except.toOption]

/-- What is loaded from descriptor sets: the schemas of all names that are not well known, in
ascending order, each from the last file of the name in the first set that has one. -/
structure IsMerge (sets : List (List FileDescriptor)) (loaded : List SchemaFile) : Prop where
  ascending : loaded.Pairwise fun first second => first.name < second.name
  foreign : ∀ schema ∈ loaded, FileName.isWellKnown schema.name = false
  names : ∀ name, (∃ schema ∈ loaded, schema.name = name) ↔
    FileName.isWellKnown name = false ∧ ∃ files ∈ sets, ∃ file ∈ files, file.name = name
  origin : ∀ schema ∈ loaded, ∃ before files after file, sets = before ++ files :: after ∧
    (∀ earlier ∈ before, ∀ other ∈ earlier, other.name ≠ schema.name) ∧
    lastNamed? files schema.name = some file ∧
    convertFile (TypeIndex.ofFiles files) file = .ok schema

/-- Schemas in ascending order are a merge, if each is the one that the first set with its name
contributes. -/
theorem isMerge_of_schemaNamed? {sets : List (List FileDescriptor)} {loaded : List SchemaFile}
    (hconvert : ∀ files ∈ sets, Converts files) (horder : Ascending loaded)
    (h : ∀ name, schemaNamed? loaded name = sets.findSome? (contributed? name)) :
    IsMerge sets loaded := by
  have hmem {schema : SchemaFile} (hschema : schema ∈ loaded) :
      sets.findSome? (contributed? schema.name) = some schema := by
    rw [← h, schemaNamed?, find?_eq_some_of_mem horder hschema]
  -- what is loaded under a name is what the first set with that name contributes, so each field of
  -- `IsMerge` is read off `h`
  refine ⟨horder, fun schema hschema => ?_, fun name => ⟨?_, ?_⟩, fun schema hschema => ?_⟩
  · obtain ⟨files, _, hfiles⟩ := List.exists_of_findSome?_eq_some (hmem hschema)
    exact (contributed?_eq_some_iff.mp hfiles).1
  · rintro ⟨schema, hschema, rfl⟩
    obtain ⟨files, hmemFiles, hfiles⟩ := List.exists_of_findSome?_eq_some (hmem hschema)
    obtain ⟨hforeign, hconverted⟩ := contributed?_eq_some_iff.mp hfiles
    exact ⟨hforeign, files, hmemFiles,
      (hconvert files hmemFiles).exists_iff.mp ⟨schema, hconverted⟩⟩
  · rintro ⟨hforeign, files, hfiles, hfile⟩
    obtain ⟨schema, hschema⟩ := (hconvert files hfiles).exists_iff.mpr hfile
    cases hnamed : schemaNamed? loaded name with
    | some found => exact ⟨found, of_schemaNamed?_eq_some hnamed⟩
    | none =>
        rw [h, List.findSome?_eq_none_iff] at hnamed
        have hsome := contributed?_eq_some_iff.mpr ⟨hforeign, hschema⟩
        rw [hnamed files hfiles] at hsome
        cases hsome
  · obtain ⟨before, files, after, rfl, hfiles, hbefore⟩ :=
      List.findSome?_eq_some_iff.mp (hmem hschema)
    obtain ⟨hforeign, hconverted⟩ := contributed?_eq_some_iff.mp hfiles
    obtain ⟨file, hlast, hfile⟩ := exists_lastNamed?_of_convertNamed hconverted
    refine ⟨before, files, after, file, rfl, fun earlier hearlier other hother hname => ?_, hlast,
      hfile⟩
    obtain ⟨found, hfound⟩ := (hconvert earlier (by simp [hearlier])).exists_iff.mpr
      ⟨other, hother, hname⟩
    have hsome := contributed?_eq_some_iff.mpr ⟨hforeign, hfound⟩
    rw [hbefore earlier hearlier] at hsome
    cases hsome

/-- Sets that have the same schema for every common name that is not well known. -/
def Agree (sets : List (List FileDescriptor)) : Prop :=
  ∀ first ∈ sets, ∀ second ∈ sets, ∀ name, FileName.isWellKnown name = false →
    (∃ file ∈ first, file.name = name) → (∃ file ∈ second, file.name = name) →
      convertNamed first name = convertNamed second name

/-- Sets that agree contribute the same schema for a name. -/
theorem Agree.contributed?_eq {sets : List (List FileDescriptor)} (h : Agree sets)
    (hconvert : ∀ files ∈ sets, Converts files) (name : String) :
    ∀ first ∈ sets, ∀ second ∈ sets, ∀ schema other, contributed? name first = some schema →
      contributed? name second = some other → schema = other := by
  intro first hfirst second hsecond schema other hschema hother
  obtain ⟨hforeign, hschema⟩ := contributed?_eq_some_iff.mp hschema
  obtain ⟨_, hother⟩ := contributed?_eq_some_iff.mp hother
  have hequal := h first hfirst second hsecond name hforeign
    ((hconvert first hfirst).exists_iff.mp ⟨schema, hschema⟩)
    ((hconvert second hsecond).exists_iff.mp ⟨other, hother⟩)
  rw [hschema, hother] at hequal
  exact Except.ok.inj hequal

/-- What is loaded from some descriptor sets. -/
theorem exists_load_of_sets {settings : Settings} {here : Site} {world : World}
    {sets : List (List FileDescriptor)} (hne : settings.descriptorSets.listed ≠ [])
    (hsets : List.Forall₂ (HoldsSet here world) settings.descriptorSets.listed sets)
    (hconvert : ∀ files ∈ sets, Converts files) :
    ∃ loaded, (load settings here world).1 = .ok loaded ∧ Ascending loaded ∧
      ∀ name, schemaNamed? loaded name = sets.findSome? (contributed? name) := by
  rw [load_eq_foldlM hne]
  exact foldlM_loadSet hsets hconvert .nil rfl

end Load

/-- **Descriptor sets are merged by name.**  The schemas that are loaded are in ascending order of
their names, without well-known ones.  There is one for every other name of a file in some set: the
last file of the name in the first set that has one, with types of that set.  If sets with a common
name have the same schema for it, neither the order of the sets nor repetitions matter. -/
theorem descriptor_sets_merged {settings : Settings} {here : Site} {world : World}
    {sets : List (List FileDescriptor)} (hne : settings.descriptorSets.listed ≠ [])
    (hsets : List.Forall₂ (Load.HoldsSet here world) settings.descriptorSets.listed sets)
    (hconvert : ∀ files ∈ sets, Load.Converts files) :
    ∃ loaded, (Load.load settings here world).1 = .ok loaded ∧ Load.IsMerge sets loaded ∧
      ∀ other : Settings, (∀ path, path ∈ other.descriptorSets.listed ↔
          path ∈ settings.descriptorSets.listed) →
        Load.Agree sets → (Load.load other here world).1 = .ok loaded := by
  obtain ⟨loaded, hload, horder, hnamed⟩ := Load.exists_load_of_sets hne hsets hconvert
  refine ⟨loaded, hload, Load.isMerge_of_schemaNamed? hconvert horder hnamed,
    fun other hpaths hagree => ?_⟩
  have hotherNe : other.descriptorSets.listed ≠ [] := by
    obtain ⟨path, hpath⟩ := List.exists_mem_of_ne_nil _ hne
    exact List.ne_nil_of_mem ((hpaths path).mpr hpath)
  -- The other settings lead to the same sets, in some order.
  obtain ⟨otherSets, hotherSets⟩ : ∃ otherSets, List.Forall₂ (Load.HoldsSet here world)
      other.descriptorSets.listed otherSets :=
    exists_forall₂_iff.mpr fun path hpath =>
      exists_forall₂_iff.mp ⟨sets, hsets⟩ path ((hpaths path).mp hpath)
  have hmem (files : List FileDescriptor) : files ∈ otherSets ↔ files ∈ sets := by
    simp only [Load.mem_sets_iff hotherSets, Load.mem_sets_iff hsets, hpaths]
  obtain ⟨otherLoaded, hotherLoad, hotherOrder, hotherNamed⟩ := Load.exists_load_of_sets hotherNe
    hotherSets fun files hfiles => hconvert files ((hmem files).mp hfiles)
  have hsame : otherLoaded = loaded := by
    refine eq_of_find?_eq hotherOrder horder fun name => ?_
    rw [← Load.schemaNamed?, ← Load.schemaNamed?, hotherNamed, hnamed]
    exact findSome?_congr_of_agree hmem (hagree.contributed?_eq hconvert name)
  rw [hotherLoad, hsame]

/-- A comment at a place of the source. -/
def noteBytes (path : List Nat) (comment : String) : Bytes :=
  Wire.encodePayload 1
    (Wire.encodePayload 1 (path.flatMap Wire.encodeVarint) ++ Wire.encodeText 3 comment)

/-- A compiled file with comments at some places of its source. -/
def notedFileBytes (notes : List Bytes) : Bytes :=
  Plugin.fileBytes "talk.proto" "Chat" [Plugin.methodBytes "Say"] ++
    Wire.encodePayload 9 notes.flatten

/-- A descriptor set with two files of one name, of which the second has comments. -/
def notedSet : Bytes :=
  Wire.encodePayload 1 (Plugin.fileBytes "talk.proto" "Talk" [Plugin.methodBytes "Say"]) ++
    Wire.encodePayload 1 (Plugin.fileBytes "echo.proto" "Echo" [Plugin.methodBytes "Repeat"]) ++
    Wire.encodePayload 1
      (notedFileBytes [noteBytes [6, 0] " Chats.\n", noteBytes [6, 0, 2, 0] " Says.\n"])

/-- A descriptor set that shares this file, with its comments in another order, and one twice. -/
def sharingSet : Bytes :=
  Wire.encodePayload 1 (Plugin.fileBytes "google/protobuf/text.proto" "Lost" []) ++
    Wire.encodePayload 1 (Plugin.fileBytes "line.proto" "Line" [Plugin.methodBytes "Draw"]) ++
    Wire.encodePayload 1 (notedFileBytes [noteBytes [6, 0, 2, 0] " Says.\n",
      noteBytes [6, 0] " Talks.\n", noteBytes [6, 0] " Chats.\n"])

def sharingWorld : World where
  tree := ⟨[(["work"], .directory), (["work", "talk.bin"], .file notedSet),
    (["work", "line.bin"], .file sharingSet)]⟩

/-- The files of the two sets. -/
def sharingFiles : List (List FileDescriptor) :=
  [notedSet, sharingSet].map fun data => (descriptorSet? data).getD []

theorem agree_sharingFiles : Load.Agree sharingFiles := by
  have htalk : ((descriptorSet? notedSet).getD []).map FileDescriptor.name =
      ["talk.proto", "echo.proto", "talk.proto"] := by decide +kernel
  have hline : ((descriptorSet? sharingSet).getD []).map FileDescriptor.name =
      ["google/protobuf/text.proto", "line.proto", "talk.proto"] := by decide +kernel
  have hshared : convertNamed ((descriptorSet? notedSet).getD []) "talk.proto" =
      convertNamed ((descriptorSet? sharingSet).getD []) "talk.proto" := by decide +kernel
  intro first hfirst second hsecond name _ hinFirst hinSecond
  rw [← List.mem_map] at hinFirst hinSecond
  simp only [sharingFiles, List.map_cons, List.map_nil, List.mem_cons, List.not_mem_nil,
    or_false] at hfirst hsecond
  rcases hfirst with rfl | rfl <;> rcases hsecond with rfl | rfl
  · rfl
  · rw [htalk] at hinFirst
    rw [hline] at hinSecond
    obtain rfl : name = "talk.proto" := by grind
    exact hshared
  · rw [hline] at hinFirst
    rw [htalk] at hinSecond
    obtain rfl : name = "talk.proto" := by grind
    exact hshared.symm
  · rfl

def sharingSettings (sets : List String) : Settings :=
  .ofOptions { descriptorSets := sets }

theorem descriptor_sets_merged_sharing :
    ∃ loaded, (Load.load (sharingSettings ["talk.bin", "line.bin"]) repeatedSite
        sharingWorld).1 = .ok loaded ∧
      loaded.map (fun schema => (schema.name, schema.services.map Service.name)) =
        [("echo.proto", ["Echo"]), ("line.proto", ["Line"]), ("talk.proto", ["Chat"])] ∧
      Load.IsMerge sharingFiles loaded ∧
      (Load.load (sharingSettings ["line.bin", "talk.bin", "line.bin"]) repeatedSite
        sharingWorld).1 = .ok loaded := by
  have hset (path : String) (data : Bytes)
      (hdata : sharingWorld.tree.read repeatedSite.workingDirectory
        (Load.setPath repeatedSite path) = .ok data)
      (hsome : (descriptorSet? data).isSome = true) :
      Load.HoldsSet repeatedSite sharingWorld path ((descriptorSet? data).getD []) := by
    obtain ⟨files, hfiles⟩ := Option.isSome_iff_exists.mp hsome
    exact ⟨data, hdata, by rw [hfiles, Option.getD_some]⟩
  have hsets : List.Forall₂ (Load.HoldsSet repeatedSite sharingWorld)
      (sharingSettings ["talk.bin", "line.bin"]).descriptorSets.listed sharingFiles :=
    .cons (hset "talk.bin" notedSet (by decide +kernel) (by decide +kernel))
      (.cons (hset "line.bin" sharingSet (by decide +kernel) (by decide +kernel)) .nil)
  have hconvert : ∀ files ∈ sharingFiles, Load.Converts files := by
    simp only [sharingFiles, List.map_cons, List.map_nil, List.forall_mem_cons]
    exact ⟨by decide +kernel, by decide +kernel, by simp⟩
  have hpaths (path : String) : path ∈ ["line.bin", "talk.bin", "line.bin"] ↔
      path ∈ ["talk.bin", "line.bin"] := by grind
  have hnames : ((Load.load (sharingSettings ["talk.bin", "line.bin"]) repeatedSite
      sharingWorld).1.map fun loaded =>
        loaded.map fun schema => (schema.name, schema.services.map Service.name)) =
      .ok [("echo.proto", ["Echo"]), ("line.proto", ["Line"]), ("talk.proto", ["Chat"])] := by
    decide +kernel
  have hlisted : (sharingSettings ["talk.bin", "line.bin"]).descriptorSets.listed ≠ [] :=
    List.cons_ne_nil _ _
  obtain ⟨loaded, hload, hmerge, hother⟩ := descriptor_sets_merged hlisted hsets hconvert
  rw [hload] at hnames
  exact ⟨loaded, hload, Except.ok.inj hnames, hmerge,
    hother (sharingSettings ["line.bin", "talk.bin", "line.bin"]) hpaths agree_sharingFiles⟩

end StubGen
