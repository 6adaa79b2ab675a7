import StubGen.Proofs.Effects
import StubGen.Proofs.FrontEnds

/-!
# StubGen.Proofs.RepeatedRun

What a run on descriptor sets writes, if it neither cleans up nor formats nor checks.

1. Files that are written one after the other, with the directories on the way, leave everything
   else as it was, and of several with one place the last stays (`FileTree.Written`).  That carries
   over from the later files to one more in front (`FileTree.Written.cons`), and so it holds of the
   modules of a run (`Run.written_of_writeOutputs`).
2. Where the files are, they can be written once more, and no directory is made then
   (`Run.writeOutputs_of_ready`).
3. The schemas are the same as long as the descriptor sets are (`Load.exists_load`).
-/

namespace StubGen

open StubGen.Path (place directory)

/-! ## Files that are written -/

namespace FileTree

/-- Files that can be written in directories that are there. -/
def Ready (workingDirectory : String) (files : List (String × Bytes)) (tree : FileTree) : Prop :=
  ∀ file ∈ files, tree.Writable workingDirectory file.1 ∧ directory file.1 ≠ ""

/-- The second file system is the first with some files, given by path and content, written one
after the other in directories that were made if they were missing. -/
structure Written (workingDirectory : String) (files : List (String × Bytes))
    (before after : FileTree) : Prop where
  /-- Where none of the files is, there may be a new directory on the way to one. -/
  others : ∀ spot, (∀ file ∈ files, spot ≠ place workingDirectory file.1) →
    after.get? spot = before.get? spot ∨
      ((∃ file ∈ files, OnTheWay workingDirectory (directory file.1) spot) ∧
        before.get? spot = none ∧ after.get? spot = some .directory)
  /-- The last file at a place stays. -/
  last : ∀ file later, file :: later <:+ files →
    (∀ other ∈ later, place workingDirectory other.1 ≠ place workingDirectory file.1) →
    after.get? (place workingDirectory file.1) = some (.file file.2)
  keeps : KeepsDirectories before after
  ready : Ready workingDirectory files after

/-- A file in place of something that is no directory. -/
theorem keepsDirectories_put {tree : FileTree} {spot : Place}
    (h : tree.get? spot ≠ some .directory) (entry : Entry) :
    KeepsDirectories tree (tree.put spot entry) := by
  intro other hother
  by_cases hnil : other = []
  · subst hnil
    rfl
  · have hne : other ≠ spot := by
      rintro rfl
      exact h hother
    rw [get?_put hnil, if_neg hne, hother]

namespace Written

variable {workingDirectory : String} {before made after : FileTree}

theorem nil (tree : FileTree) : Written workingDirectory [] tree tree where
  others _ _ := .inl rfl
  last file later hsuffix := by simp at hsuffix
  keeps _ h := h
  ready _ hfile := by simp at hfile

/-- At the place of a file there is a file in the end. -/
theorem exists_file {files : List (String × Bytes)}
    (h : Written workingDirectory files before after) {file : String × Bytes}
    (hfile : file ∈ files) :
    ∃ data, after.get? (place workingDirectory file.1) = some (.file data) := by
  obtain ⟨final, later, hsuffix, hplace, hlater⟩ :=
    exists_last_of_mem (fun other => place workingDirectory other.1) hfile
  exact ⟨final.2, hplace ▸ h.last final later hsuffix hlater⟩

/-- A file stays if none of the later ones has its place. -/
theorem get?_first {path : String} {data : Bytes} {rest : List (String × Bytes)}
    (hwritable : made.Writable workingDirectory path)
    (hrest : Written workingDirectory rest (made.put (place workingDirectory path) (.file data))
      after)
    (h : ∀ file ∈ rest, place workingDirectory path ≠ place workingDirectory file.1) :
    after.get? (place workingDirectory path) = some (.file data) := by
  have hput : (made.put (place workingDirectory path) (.file data)).get?
      (place workingDirectory path) = some (.file data) := by
    rw [get?_put hwritable.place_ne_nil, if_pos rfl]
  rcases hrest.others _ h with hsame | ⟨_, hnone, _⟩
  · rw [hsame, hput]
  · rw [hput] at hnone
    cases hnone

/-- A file that was written does not become a directory. -/
theorem get?_first_ne_directory {path : String} {data : Bytes} {rest : List (String × Bytes)}
    (hwritable : made.Writable workingDirectory path)
    (hrest : Written workingDirectory rest (made.put (place workingDirectory path) (.file data))
      after) : after.get? (place workingDirectory path) ≠ some .directory := by
  by_cases hother : ∃ other ∈ rest, place workingDirectory path = place workingDirectory other.1
  · obtain ⟨other, hmem, hplace⟩ := hother
    obtain ⟨content, hcontent⟩ := hrest.exists_file hmem
    rw [hplace, hcontent]
    simp
  · rw [get?_first hwritable hrest fun other hmem hplace => hother ⟨other, hmem, hplace⟩]
    simp

/-- One file is written, and then the others. -/
theorem cons {path : String} {data : Bytes} {rest : List (String × Bytes)}
    (hmade : AddsDirectories (OnTheWay workingDirectory (directory path)) before made)
    (hwritable : made.Writable workingDirectory path) (hdirectory : directory path ≠ "")
    (hrest : Written workingDirectory rest (made.put (place workingDirectory path) (.file data))
      after) :
    Written workingDirectory ((path, data) :: rest) before after := by
  have hkeepsPut := keepsDirectories_put hwritable.2 (.file data)
  have hkeepsMade : KeepsDirectories made after := fun spot hspot =>
    hrest.keeps spot (hkeepsPut spot hspot)
  -- the fields of `Written`, in order: other places, last contents, directories, readiness
  refine ⟨?_, ?_, ?_, ?_⟩
  · intro spot hspot
    have hne : spot ≠ place workingDirectory path := hspot (path, data) List.mem_cons_self
    have hputSpot : (made.put (place workingDirectory path) (.file data)).get? spot =
        made.get? spot := sameOutside_put made _ _ spot hne
    rcases hrest.others spot fun file hfile => hspot file (List.mem_cons_of_mem _ hfile) with
      hsame | ⟨⟨file, hfile, hway⟩, hnone, hdir⟩
    · rw [hsame, hputSpot]
      rcases hmade spot with hbefore | ⟨hway, hnone, hdir⟩
      · exact .inl hbefore
      · exact .inr ⟨⟨_, List.mem_cons_self, hway⟩, hnone, hdir⟩
    · rw [hputSpot] at hnone
      rcases hmade spot with hbefore | ⟨_, _, hmadeDir⟩
      · exact .inr ⟨⟨file, List.mem_cons_of_mem _ hfile, hway⟩, hbefore ▸ hnone, hdir⟩
      · rw [hmadeDir] at hnone
        cases hnone
  · intro file later hsuffix hlater
    rcases List.suffix_cons_iff.mp hsuffix with heq | hsuffixRest
    · obtain ⟨rfl, rfl⟩ := List.cons.inj heq
      exact get?_first hwritable hrest fun other hother hplace =>
        hlater other hother hplace.symm
    · exact hrest.last file later hsuffixRest hlater
  · exact fun spot hspot => hkeepsMade spot (hmade.keepsDirectories spot hspot)
  · intro file hfile
    rcases List.mem_cons.mp hfile with rfl | hmem
    · exact ⟨hwritable.of_keepsDirectories hkeepsMade (get?_first_ne_directory hwritable hrest),
        hdirectory⟩
    · exact hrest.ready file hmem

end Written

/-- Files can still be written after one of them was. -/
theorem Ready.put {workingDirectory : String} {files : List (String × Bytes)} {tree : FileTree}
    (h : Ready workingDirectory files tree) {path : String}
    (hpath : tree.Writable workingDirectory path) (data : Bytes) :
    Ready workingDirectory files (tree.put (place workingDirectory path) (.file data)) := by
  intro file hfile
  obtain ⟨hwritable, hdirectory⟩ := h file hfile
  refine ⟨hwritable.of_keepsDirectories (keepsDirectories_put hpath.2 _) ?_, hdirectory⟩
  rw [get?_put hwritable.place_ne_nil]
  split
  · simp
  · exact hwritable.2

/-- Only a path that is not empty can be made sure of. -/
theorem directory_ne_empty_of_ensureDirectories {tree made : FileTree}
    {workingDirectory path : String}
    (h : tree.ensureDirectories workingDirectory path = (made, none)) : path ≠ "" := by
  rintro rfl
  have hproblem : tree.ensureDirectories workingDirectory "" = (tree, some ⟨.notFound, ""⟩) := by
    rfl
  rw [hproblem] at h
  simp at h

end FileTree

/-! ## Modules that are written -/

namespace Run

open FileTree StubGen.Action

/-- The paths and the contents of some modules below a directory. -/
def outputFiles (directory : String) (outputs : List Stub.Output) : List (String × Bytes) :=
  outputs.map fun output => (Path.join directory output.name, Text.encodeUtf8 output.text)

theorem outputFiles_cons (directory : String) (output : Stub.Output) (rest : List Stub.Output) :
    outputFiles directory (output :: rest) =
      (Path.join directory output.name, Text.encodeUtf8 output.text) ::
        outputFiles directory rest := rfl

variable {settings : Settings} {below : String} {here : Site} {world last : World}

/-- A module that is not formatted is written as it is. -/
theorem writeOutput_eq_ok_iff (hformat : settings.noFormat.isYes = true) (output : Stub.Output)
    {path : String} :
    writeOutput settings below output here world = (.ok path, last) ↔
      path = Path.join below output.name ∧
      ∃ made written, world.tree.ensureDirectories here.workingDirectory (directory path) =
          (made, none) ∧
        made.write here.workingDirectory path (Text.encodeUtf8 output.text) = .ok written ∧
        last = { world with
          tree := written, log := world.log ++ [.info ("Wrote stubs to '" ++ path ++ "'.")] } := by
  simp only [writeOutput, hformat, if_true, bind_apply_eq_ok_iff, makeDirectories_eq_ok_iff,
    writeFile_eq_ok_iff, pure_apply, note]
  constructor
  · rintro ⟨_, _, ⟨made, hmade, rfl⟩, _, _, ⟨⟩, _, _, ⟨written, hwrite, rfl⟩, _, _, ⟨⟩, ⟨⟩⟩
    exact ⟨rfl, made, written, hmade, hwrite, rfl⟩
  · rintro ⟨rfl, made, written, hmade, hwrite, rfl⟩
    exact ⟨(), _, ⟨made, hmade, rfl⟩, _, _, rfl, (), _, ⟨written, hwrite, rfl⟩, (), _, rfl, rfl⟩

/-- Without formatting, the stubs are written as they were generated. -/
theorem written_of_writeOutputs (hformat : settings.noFormat.isYes = true)
    {outputs : List Stub.Output} {paths : List String}
    (h : writeOutputs settings below outputs here world = (.ok paths, last)) :
    Written here.workingDirectory (outputFiles below outputs) world.tree last.tree := by
  induction outputs generalizing world paths with
  | nil =>
      obtain ⟨_, rfl⟩ := pure_apply_eq_ok_iff.mp h
      exact .nil world.tree
  | cons output rest ih =>
      rw [writeOutputs_cons] at h
      obtain ⟨path, between, hfirst, hrest⟩ := bind_apply_eq_ok_iff.mp h
      obtain ⟨others, _, hothers, hpure⟩ := bind_apply_eq_ok_iff.mp hrest
      obtain ⟨_, rfl⟩ := pure_apply_eq_ok_iff.mp hpure
      obtain ⟨rfl, made, written, hmade, hwrite, hbetween⟩ :=
        (writeOutput_eq_ok_iff hformat output).mp hfirst
      have htree : between.tree = written := by rw [hbetween]
      obtain ⟨hwritable, rfl⟩ := write_eq_ok_iff.mp hwrite
      have hadds := addsDirectories_ensureDirectories world.tree here.workingDirectory
        (directory (Path.join below output.name))
      rw [hmade] at hadds
      rw [outputFiles_cons]
      exact .cons hadds hwritable (directory_ne_empty_of_ensureDirectories hmade)
        (htree ▸ ih hothers)

/-- A module is written in a directory that is there. -/
theorem exists_writeOutput (hformat : settings.noFormat.isYes = true) (output : Stub.Output)
    (hwritable : world.tree.Writable here.workingDirectory (Path.join below output.name))
    (hdirectory : directory (Path.join below output.name) ≠ "") :
    ∃ next, writeOutput settings below output here world =
        (.ok (Path.join below output.name), next) ∧
      next.tree = world.tree.put (place here.workingDirectory (Path.join below output.name))
        (.file (Text.encodeUtf8 output.text)) := by
  have hmade := ensureDirectories_of_isDirectory (hwritable.isDirectory_directory hdirectory)
  exact ⟨_, (writeOutput_eq_ok_iff hformat output).mpr
    ⟨rfl, _, _, hmade, write_eq_ok_iff.mpr ⟨hwritable, rfl⟩, rfl⟩, rfl⟩

/-- Modules that were written can be written again, and nothing else is different then. -/
theorem writeOutputs_of_ready (hformat : settings.noFormat.isYes = true)
    {outputs : List Stub.Output}
    (h : Ready here.workingDirectory (outputFiles below outputs) world.tree) :
    ∃ paths last, writeOutputs settings below outputs here world = (.ok paths, last) ∧
      SameOutside (fun spot => ∃ file ∈ outputFiles below outputs,
        spot = place here.workingDirectory file.1) world.tree last.tree := by
  induction outputs generalizing world with
  | nil => exact ⟨[], world, rfl, fun _ _ => rfl⟩
  | cons output rest ih =>
      rw [outputFiles_cons] at h ⊢
      obtain ⟨hwritable, hdirectory⟩ := h _ List.mem_cons_self
      obtain ⟨next, hfirst, htree⟩ := exists_writeOutput hformat output hwritable hdirectory
      have hrest : Ready here.workingDirectory (outputFiles below rest) world.tree :=
        fun file hfile => h file (List.mem_cons_of_mem _ hfile)
      have hnext : Ready here.workingDirectory (outputFiles below rest) next.tree :=
        htree ▸ hrest.put hwritable _
      obtain ⟨paths, last, hothers, hsame⟩ := ih hnext
      refine ⟨Path.join below output.name :: paths, last, ?_, fun spot hspot => ?_⟩
      · rw [writeOutputs_cons, bind_of_ok hfirst, bind_of_ok hothers, pure_apply]
      · rw [hsame spot fun ⟨file, hfile, hplace⟩ =>
          hspot ⟨file, List.mem_cons_of_mem _ hfile, hplace⟩, htree]
        exact sameOutside_put world.tree _ _ spot fun hplace =>
          hspot ⟨_, List.mem_cons_self, hplace⟩

end Run

/-! ## Loading again -/

namespace Load

open StubGen.Action

variable {here : Site} {world last other : World} {loaded files : List SchemaFile}

/-- The path of a descriptor set. -/
def setPath (here : Site) (set : String) : String :=
  Path.tidy (Path.join here.workingDirectory set)

/-- Converting schemas does not depend on the file system. -/
theorem schemasOf_eq_ok {data : Bytes} {selected : Option (List String)}
    (h : schemasOf data selected here world = (.ok files, last)) (other : World) :
    ∃ last, schemasOf data selected here other = (.ok files, last) := by
  cases hset : descriptorSet? data with
  | none =>
      rw [schemasOf, hset] at h
      cases h
  | some descriptors =>
      rw [schemasOf_apply hset, Prod.mk.injEq] at h
      exact ⟨_, by rw [schemasOf_apply hset, h.1]⟩

/-- What is loaded depends on the content of the descriptor set alone. -/
theorem loadSet_of_read {set : String}
    (h : loadSet loaded set here world = (.ok files, last))
    (hread : ∀ data, world.tree.read here.workingDirectory (setPath here set) = .ok data →
      other.tree.read here.workingDirectory (setPath here set) = .ok data) :
    ∃ last, loadSet loaded set here other = (.ok files, last) := by
  rw [loadSet, site_bind, ← setPath] at h
  obtain ⟨data, _, hdata, hnext⟩ := bind_apply_eq_ok_iff.mp h
  obtain ⟨hdata, rfl⟩ := readFile_eq_ok_iff.mp hdata
  obtain ⟨schemas, _, hschemas, hpure⟩ := bind_apply_eq_ok_iff.mp hnext
  obtain ⟨otherLast, hother⟩ := schemasOf_eq_ok hschemas other
  refine ⟨otherLast, ?_⟩
  rw [loadSet, site_bind, ← setPath, bind_of_ok (readFile_eq_ok_iff.mpr ⟨hread data hdata, rfl⟩),
    bind_of_ok hother]
  exact congrArg (·, otherLast) (congrArg Prod.fst hpure)

/-- Descriptor sets that can still be read are loaded again. -/
theorem foldlM_loadSet_of_read {sets : List String}
    (h : sets.foldlM loadSet loaded here world = (.ok files, last))
    (hread : ∀ set ∈ sets, ∀ data,
      world.tree.read here.workingDirectory (setPath here set) = .ok data →
        other.tree.read here.workingDirectory (setPath here set) = .ok data) :
    ∃ last, sets.foldlM loadSet loaded here other = (.ok files, last) := by
  induction sets generalizing loaded world other with
  | nil => exact ⟨other, congrArg (·, other) (congrArg Prod.fst h)⟩
  | cons set rest ih =>
      rw [List.foldlM_cons] at h ⊢
      obtain ⟨more, between, hset, hrest⟩ := bind_apply_eq_ok_iff.mp h
      obtain ⟨otherBetween, hother⟩ := loadSet_of_read hset (hread set List.mem_cons_self)
      have htree := tree_eq_of_respects (respects_loadSet loaded set) hset
      have hotherTree := tree_eq_of_respects (respects_loadSet loaded set) hother
      rw [bind_of_ok hother]
      refine ih hrest fun later hlater data => ?_
      rw [htree, hotherTree]
      exact hread later (List.mem_cons_of_mem _ hlater) data

variable {settings : Settings}

/-- Where descriptor sets are given, they are all that is loaded. -/
theorem load_eq_foldlM (h : settings.descriptorSets.listed ≠ []) :
    load settings = settings.descriptorSets.listed.foldlM loadSet [] := by
  simp [load, h]

/-- Loading descriptor sets changes no files. -/
theorem tree_of_load (hsets : settings.descriptorSets.listed ≠ [])
    (h : load settings here world = (.ok files, last)) : last.tree = world.tree := by
  rw [load_eq_foldlM hsets] at h
  exact tree_eq_of_respects (respects_foldlM respects_loadSet _ _) h

/-- The schemas are the same as long as the descriptor sets are. -/
theorem exists_load (hsets : settings.descriptorSets.listed ≠ [])
    (h : load settings here world = (.ok files, last))
    (hread : ∀ set ∈ settings.descriptorSets.listed, ∀ data,
      world.tree.read here.workingDirectory (setPath here set) = .ok data →
        other.tree.read here.workingDirectory (setPath here set) = .ok data) :
    ∃ next, load settings here other = (.ok files, next) ∧ next.tree = other.tree := by
  have hload := load_eq_foldlM hsets
  obtain ⟨next, hnext⟩ := foldlM_loadSet_of_read (hload ▸ h) hread
  rw [← hload] at hnext
  exact ⟨next, hnext, tree_of_load hsets hnext⟩

end Load

/-! ## Runs -/

namespace FileTree

/-- Reading gives the content of the file that a path leads to. -/
theorem read_eq_ok_iff {tree : FileTree} {workingDirectory path : String} {data : Bytes} :
    tree.read workingDirectory path = .ok data ↔
      ∃ spot, tree.lookup workingDirectory path = .ok (spot, .file data) := by
  rw [read]
  cases tree.lookup workingDirectory path with
  | error cause => simp
  | ok found =>
      obtain ⟨spot, entry⟩ := found
      cases entry <;> simp

/-- A file that is none of those written can still be read. -/
theorem Written.read {workingDirectory path : String} {files : List (String × Bytes)}
    {before after : FileTree} {data : Bytes} (h : Written workingDirectory files before after)
    (hother : ∀ file ∈ files, place workingDirectory path ≠ place workingDirectory file.1)
    (hread : before.read workingDirectory path = .ok data) :
    after.read workingDirectory path = .ok data := by
  obtain ⟨spot, hlookup⟩ := read_eq_ok_iff.mp hread
  obtain ⟨hspot, hget⟩ := get?_place_of_lookup hlookup
  refine read_eq_ok_iff.mpr ⟨spot, lookup_of_keepsDirectories h.keeps hlookup ?_⟩
  rw [hspot]
  rcases h.others _ hother with hsame | ⟨_, hnone, _⟩
  · rw [hsame, hget]
  · rw [hget] at hnone
    cases hnone

/-- Where the same files are written to what they were written to before, nothing changes. -/
theorem Written.get?_eq {workingDirectory : String} {files : List (String × Bytes)}
    {before after again : FileTree} (hfirst : Written workingDirectory files before after)
    (hsecond : Written workingDirectory files after again)
    (hsame : SameOutside (fun spot => ∃ file ∈ files, spot = place workingDirectory file.1)
      after again) (spot : Place) : again.get? spot = after.get? spot := by
  by_cases hspot : ∃ file ∈ files, spot = place workingDirectory file.1
  · obtain ⟨file, hfile, hplaceFile⟩ := hspot
    obtain ⟨final, later, hsuffix, hplace, hlater⟩ :=
      exists_last_of_mem (fun other => place workingDirectory other.1) hfile
    rw [hplaceFile, ← hplace, hsecond.last final later hsuffix hlater,
      hfirst.last final later hsuffix hlater]
  · exact hsame spot hspot

end FileTree

namespace Run

open FileTree StubGen.Action

variable {settings : Settings} {here : Site} {world last : World}

/-- Where there is nothing to clean up, nothing is done. -/
theorem clean_of_listed_eq_nil (h : settings.clean.listed = [])
    (hclean : clean settings here world = (.ok (), last)) (other : World) :
    clean settings here other = (.ok (), other) := by
  cases hgiven : settings.clean with
  | given patterns =>
      rw [hgiven, Setting.listed] at h
      subst h
      simp only [clean, hgiven]
      rfl
  | blank =>
      simp only [clean, hgiven] at hclean
      cases hclean
  | absent =>
      simp only [clean, hgiven] at hclean
      cases hclean

/-- The steps of a run that succeeds without a check at the end. -/
theorem run_eq_ok_iff (hcheck : settings.pyright.isYes = false) :
    run settings here world = (.ok (), last) ↔
      ∃ cleaned files loaded outputs generated paths,
        clean settings here world = (.ok (), cleaned) ∧
        Load.load settings here cleaned = (.ok files, loaded) ∧
        generate files here loaded = (.ok outputs, generated) ∧
        writeOutputs settings (settings.outputDirectory here.workingDirectory) outputs here
          generated = (.ok paths, last) := by
  simp only [run, site_bind, bind_apply_eq_ok_iff, hcheck, Bool.false_eq_true, if_false,
    pure_apply_eq_ok_iff]
  constructor
  · rintro ⟨_, cleaned, hclean, files, loaded, hload, outputs, generated, hgenerate, paths, _,
      hwrite, _, rfl⟩
    exact ⟨cleaned, files, loaded, outputs, generated, paths, hclean, hload, hgenerate, hwrite⟩
  · rintro ⟨cleaned, files, loaded, outputs, generated, paths, hclean, hload, hgenerate, hwrite⟩
    exact ⟨(), cleaned, hclean, files, loaded, hload, outputs, generated, hgenerate, paths, last,
      hwrite, trivial, rfl⟩

/-- The modules that are generated depend on the schemas alone. -/
theorem exists_generate {files : List SchemaFile} {outputs : List Stub.Output}
    (h : generate files here world = (.ok outputs, last)) (other : World) :
    ∃ next, generate files here other = (.ok outputs, next) ∧ next.tree = other.tree := by
  have hresult : (generate files here other).1 = .ok outputs := by
    rw [generate_apply, ← generate_apply files here world, h]
  exact ⟨_, Prod.ext hresult rfl, (respects_generate files other : _ = _).symm⟩

end Run

/-- **A run changes its modules only, and doing it again changes nothing.**  A run on descriptor
sets that succeeds, and that is not asked to clean up, to format or to check, writes the modules it
generates, makes the directories that are missing on the way to them, and does nothing else.  If no
module takes the place of a descriptor set, then the same run succeeds again, and the file system
stays as it is. -/
theorem successful_run_repeatable {settings : Settings} {here : Site} {world after : World}
    (hsets : settings.descriptorSets.listed ≠ []) (hclean : settings.clean.listed = [])
    (hformat : settings.noFormat.isYes = true) (hcheck : settings.pyright.isYes = false)
    (hrun : Run.run settings here world = (.ok (), after)) :
    ∃ outputs files, ((Load.load settings >>= Run.generate) here world).1 = .ok outputs ∧
      files = Run.outputFiles (settings.outputDirectory here.workingDirectory) outputs ∧
      FileTree.Written here.workingDirectory files world.tree after.tree ∧
      ((∀ set ∈ settings.descriptorSets.listed, ∀ file ∈ files,
          place here.workingDirectory (Load.setPath here set) ≠
            place here.workingDirectory file.1) →
        ∃ again, Run.run settings here after = (.ok (), again) ∧
          ∀ spot, again.tree.get? spot = after.tree.get? spot) := by
  obtain ⟨cleaned, schemas, loaded, outputs, generated, paths, hcleaned, hload, hgenerate,
      hwrite⟩ :=
    (Run.run_eq_ok_iff hcheck).mp hrun
  obtain rfl : world = cleaned := by
    rw [Run.clean_of_listed_eq_nil hclean hcleaned world] at hcleaned
    exact congrArg Prod.snd hcleaned
  have hgenerated : generated.tree = loaded.tree :=
    Action.tree_eq_of_respects (Run.respects_generate schemas) hgenerate
  have hwritten := Run.written_of_writeOutputs hformat hwrite
  rw [hgenerated, Load.tree_of_load hsets hload] at hwritten
  refine ⟨outputs, _, ?_, rfl, hwritten, fun hother => ?_⟩
  · rw [Action.bind_of_ok hload, hgenerate]
  -- The second run loads the same schemas, and so it writes the same modules.
  · obtain ⟨loadedAgain, hloadAgain, htreeLoaded⟩ := Load.exists_load hsets hload
      fun set hset data => hwritten.read (hother set hset)
    obtain ⟨generatedAgain, hgenerateAgain, htreeGenerated⟩ :=
      Run.exists_generate hgenerate loadedAgain
    have htree : generatedAgain.tree = after.tree := htreeGenerated.trans htreeLoaded
    obtain ⟨pathsAgain, again, hwriteAgain, hsame⟩ :=
      Run.writeOutputs_of_ready hformat (htree ▸ hwritten.ready)
    have hwrittenAgain := Run.written_of_writeOutputs hformat hwriteAgain
    rw [htree] at hwrittenAgain hsame
    exact ⟨again, (Run.run_eq_ok_iff hcheck).mpr ⟨after, schemas, loadedAgain, outputs,
      generatedAgain, pathsAgain, Run.clean_of_listed_eq_nil hclean hcleaned after, hloadAgain,
      hgenerateAgain, hwriteAgain⟩, hwritten.get?_eq hwrittenAgain hsame⟩

/-- A descriptor set with two files whose modules have one place. -/
def doubledSet : Bytes :=
  Wire.encodePayload 1 (Plugin.fileBytes "talk.proto" "Talk" [Plugin.methodBytes "Say"]) ++
    Wire.encodePayload 1 (Plugin.fileBytes "./talk.proto" "Chat" [Plugin.methodBytes "Say"])

def doubledWorld : World where
  tree := ⟨[(["work"], .directory), (["work", "talk.bin"], .file doubledSet)]⟩

def doubledSettings : Settings :=
  .ofOptions { descriptorSets := ["talk.bin"], outputDir := some "out/made", noFormat := true }

theorem successful_run_repeatable_doubled :
    ∃ after outputs, Run.run doubledSettings repeatedSite doubledWorld = (.ok (), after) ∧
      outputs.map Stub.Output.name = ["./talk_pb2_rsocket.py", "talk_pb2_rsocket.py"] ∧
      FileTree.Written "/work" (Run.outputFiles "out/made" outputs) doubledWorld.tree after.tree ∧
      ∃ again, Run.run doubledSettings repeatedSite after = (.ok (), again) ∧
        ∀ spot, again.tree.get? spot = after.tree.get? spot := by
  have hok : (Run.run doubledSettings repeatedSite doubledWorld).1 = .ok () := by decide +kernel
  have hrun : Run.run doubledSettings repeatedSite doubledWorld =
      (.ok (), (Run.run doubledSettings repeatedSite doubledWorld).2) := Prod.ext hok rfl
  generalize (Run.run doubledSettings repeatedSite doubledWorld).2 = after at hrun
  obtain ⟨outputs, files, houtputs, hfiles, hwritten, hagain⟩ :=
    successful_run_repeatable (by decide) rfl rfl rfl hrun
  have hnames : ((Load.load doubledSettings >>= Run.generate) repeatedSite doubledWorld).1.map
      (·.map Stub.Output.name) = .ok ["./talk_pb2_rsocket.py", "talk_pb2_rsocket.py"] := by
    decide +kernel
  rw [houtputs] at hnames
  replace hnames : outputs.map Stub.Output.name = _ := Except.ok.inj hnames
  refine ⟨after, outputs, hrun, hnames, hfiles ▸ hwritten, hagain ?_⟩
  intro set hset file hfile
  obtain rfl : set = "talk.bin" := List.mem_singleton.mp hset
  rw [hfiles] at hfile
  obtain ⟨output, houtput, rfl⟩ := List.mem_map.mp hfile
  have hname : output.name ∈ ["./talk_pb2_rsocket.py", "talk_pb2_rsocket.py"] :=
    hnames ▸ List.mem_map_of_mem houtput
  rcases List.mem_pair.mp hname with heq | heq <;> simp only [heq] <;> decide +kernel

end StubGen
